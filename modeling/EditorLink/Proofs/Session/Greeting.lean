import EditorLink.Proofs.Session.Sharing
import EditorLink.Proofs.Session.Silence

/-!
# After the handshake

As long as a session is not closed, operations send what they have to send only when an
exchange has succeeded: the server has answered an introduction and was told that the session
starts. Most of them look whether the session is ready. Those who send later without another
look, since they had to wait for a turn or for an answer, were let through when they began,
and a document is opened by who has waited for an exchange that has succeeded. Who has waited
for one that failed opens nothing.
-/
namespace EditorLink

/-- Whether somebody who waits sends something later without a look at the session: a change
when its turn comes, and a renaming when the symbol is found. -/
def Pause.insists : Pause → Bool
  | .turn _ _ | .answer _ _ (.prepareRename _ _ _) => true
  | _ => false

namespace Progress

/-- Somebody who asked for opening a document waits for the handshake, or has given up. -/
def hasOnlyWaited : Progress → Bool
  | .paused (.exchange _ (.openBuffer _ _)) | .finished (.error _) => true
  | _ => false

/-- Somebody who asked for opening a document has sent its text. -/
def hasOpened : Progress → Bool
  | .paused (.notice _ (.opened _)) | .finished (.ok _) => true
  | _ => false

end Progress

namespace Session

/-- Some exchange has succeeded. -/
def HasGreeted (s : Session) : Prop := Exchange.succeeded ∈ s.exchanges

section
variable {s : Session} {place who depth : Nat}

theorem Single.hasGreeted (h : s.Single) (hr : s.isReady = true) : s.HasGreeted := by
  obtain ⟨k, -, hk⟩ := h.succeeded hr
  exact List.mem_of_getElem? hk

theorem insists_of_isAside {a : Advance} {pause : Pause} (h : a.2.isAside = true)
    (ha : a.2 = .paused pause) (hi : pause.insists = true) :
    ∃ request seconds position name newName,
      pause = .answer request seconds (.prepareRename position name newName) := by
  rw [ha] at h
  cases pause with
  | answer request seconds next =>
    cases next with
    | prepareRename place position newName => exact ⟨_, _, _, _, _, rfl⟩
    | _ => cases hi
  | _ => cases h

/-- Only on a ready session anybody waits for a turn to send a change. -/
theorem isReady_of_send_turn {events : List ChangeEvent} {next : AfterChange} {other : Nat}
    {turn : AfterTurn} (h : (s.send who place events next).2 = .paused (.turn other turn)) :
    s.isReady = true := by
  unfold send at h
  dsimp only at h
  split at h
  · have haside := (s.aside_afterChange place next).progress
    rw [h] at haside
    cases haside
  · rename_i hopen
    cases hr : s.isReady with
    | true => rfl
    | false => simp [hr] at hopen

theorem isReady_of_synchronize_turn {text : Document} {splices : Option (List Splice)}
    {next : AfterChange} {other : Nat} {turn : AfterTurn}
    (h : (s.synchronize who place text splices next).2 = .paused (.turn other turn)) :
    s.isReady = true := by
  unfold synchronize at h
  dsimp only at h
  split at h
  · cases h
  · exact isReady_of_send_turn (s := s.modify place fun b => { b with text := text }) h

theorem isReady_of_update_turn {text : Document} {splices : Option (List Splice)}
    {cursor : Option Int} {other : Nat} {turn : AfterTurn}
    (h : (s.update who place text splices cursor).2 = .paused (.turn other turn)) :
    s.isReady = true := by
  unfold update at h
  split at h
  · cases h
  · exact isReady_of_synchronize_turn h

theorem progress_handshake_ne_turn {next : AfterHandshake} {other : Nat} {turn : AfterTurn} :
    (s.handshake next).2 ≠ .paused (.turn other turn) := by
  intro h
  unfold handshake at h
  split at h
  · cases h
  · dsimp only at h
    split at h
    · rename_i outcome _
      cases outcome <;> cases next <;> cases h
    · cases h

theorem isReady_of_inBuffer_turn {name : String} {act : Nat → Advance} {other : Nat}
    {turn : AfterTurn}
    (hact : ∀ place, (act place).2 = .paused (.turn other turn) → s.isReady = true)
    (h : (s.inBuffer name act).2 = .paused (.turn other turn)) : s.isReady = true := by
  unfold inBuffer at h
  split at h
  · cases h
  · exact hact _ h

theorem isReady_of_begin_turn {operation : Operation} {a : Advance} {other : Nat}
    {turn : AfterTurn} (hb : s.begin depth who operation = some a)
    (h : a.2 = .paused (.turn other turn)) : s.isReady = true := by
  by_cases hi : operation.isAside = true
  · have haside := (s.aside_begin depth who hi hb).progress
    rw [h] at haside
    cases haside
  · cases operation with
    | perform command =>
      obtain ⟨b, -, rfl⟩ := Option.map_eq_some_iff.mp hb
      cases h
    | handshake =>
      cases hb
      exact absurd h progress_handshake_ne_turn
    | openBuffer name text =>
      cases hb
      exact isReady_of_inBuffer_turn (fun place hp => absurd hp progress_handshake_ne_turn) h
    | update name text splices cursor =>
      cases hb
      exact isReady_of_inBuffer_turn (fun place hp => isReady_of_update_turn hp) h
    | synchronize name text splices =>
      cases hb
      exact isReady_of_inBuffer_turn (fun place hp => isReady_of_synchronize_turn hp) h
    | refresh name =>
      cases hb
      exact isReady_of_inBuffer_turn (fun place hp => isReady_of_send_turn hp) h
    | sendEvents name events =>
      cases hb
      exact isReady_of_inBuffer_turn (fun place hp => isReady_of_send_turn hp) h
    | notify method shape params =>
      cases hb
      unfold sendNotice at h
      split at h <;> cases h
    | _ => exact absurd rfl hi

theorem isAside_noticeSent (outcome : Except Failure Unit) (next : AfterNotice) :
    (s.noticeSent outcome next).2.isAside = true := by
  cases next with
  | finish => rfl
  | opened place => exact (s.aside_bufferOpened place outcome).progress
  | changed place next => exact (aside_afterChange _ place next).progress

/-- What the host composed is answered to the host. -/
theorem insists_of_isDirect {operation : Operation} {a : Advance} {pause : Pause}
    (hd : operation.isDirect = true) (hb : s.begin depth who operation = some a)
    (ha : a.2 = .paused pause) : pause.insists = false := by
  cases operation with
  | request method shape params seconds =>
    cases hb
    unfold sendRequest at ha
    split at ha <;> cases ha
    rfl
  | notify method shape params =>
    cases hb
    unfold sendNotice at ha
    split at ha <;> cases ha
    rfl
  | _ => cases hd

end
end Session

namespace Pool
open Session

namespace Step

/-- The messages that are handed to the transport in a step. -/
def said (x : Step) : List Event :=
  x.after.session.messages.drop x.before.session.messages.length

end Step

/-- What is said in a run, and when. -/
structure Greeted (steps : List Step) (q : Pool) : Prop where
  /-- Nothing is sent but what is said in some step. -/
  messages : q.session.messages = steps.flatMap Step.said
  /-- Unless the host composed it, what is not part of the handshake is said after the server
  has answered an introduction, was told that the session starts, and this was over. -/
  follows : Along (fun past x => ∀ e ∈ x.said, e.isHandshake = false → x.isDirect = false →
    past.any Step.answers = true ∧ past.any Step.announces = true ∧
      past.any (fun y => y.move.announces) = true) [] steps
  /-- Whoever fails to open a document says nothing. -/
  fails : ∀ x ∈ steps, ∀ who name text why, x.move = .begin who →
    x.begun? = some (.openBuffer name text) → q.outcome? who = some (.error why) →
      ∀ y ∈ steps, y.move.task? = some who → y.said = []

/-- Whoever sends something later without a look at the session waits for it after an exchange
has succeeded. -/
def Guarded (p : Pool) : Prop :=
  ∀ who pause, p.pause? who = some pause → pause.insists = true → p.session.HasGreeted

section
variable {depth who : Nat} {settings : Settings} {p q : Pool} {m : Move} {steps : List Step}

theorem pause?_advance {a : Session.Advance} {other : Nat} {pause : Pause}
    (h : (p.advance who a).pause? other = some pause) :
    p.pause? other = some pause ∨ a.2 = .paused pause := by
  rw [pause?_eq_some, advance] at h
  by_cases ho : who = other
  · subst ho
    have hlt : who < (p.tasks.set who (.running a.2)).length :=
      (List.getElem?_eq_some_iff.mp h).1
    rw [List.length_set] at hlt
    rw [List.getElem?_set_self hlt] at h
    exact .inr (by injection h with h; injection h)
  · rw [List.getElem?_set_ne ho] at h
    exact .inl (pause?_eq_some.mpr h)

/-- An exchange that has succeeded stays so. -/
theorem hasGreeted_move (possible : p.move? depth m = some q) (h : p.session.HasGreeted) :
    q.session.HasGreeted := by
  obtain ⟨-, he | he⟩ | ⟨number, e, later, -, he, hp, hs⟩ := (shakes_move possible).exchanges
  · unfold HasGreeted
    rw [he]
    exact h
  · unfold HasGreeted
    rw [he]
    exact List.mem_append_left _ h
  · obtain ⟨k, hk⟩ := List.mem_iff_getElem?.mp h
    refine List.mem_of_getElem? (i := k) ?_
    have hne : number ≠ k := by
      rintro rfl
      rw [he] at hk
      cases hk
      cases hp
    rw [hs, List.getElem?_set_ne hne, hk]

/-- Whoever begins to wait for its turn, or for an answer on which it sends more, has found
the session ready. -/
theorem hasGreeted_of_begin {s : Session} {operation : Operation} {a : Session.Advance}
    {pause : Pause} (h : s.Single) (hb : s.begin depth who operation = some a)
    (ha : a.2 = .paused pause) (hi : pause.insists = true) : s.HasGreeted := by
  cases pause with
  | turn place next => exact h.hasGreeted (isReady_of_begin_turn hb ha)
  | answer request seconds next =>
    have hm : a.2.message? = some (.requested request seconds) := by rw [ha]; rfl
    obtain hd | hr | ⟨-, hs⟩ := ((s.speaks_begin depth who hb).allowed _ hm).2
    · simp [insists_of_isDirect hd hb ha] at hi
    · exact h.hasGreeted hr
    · exact hs
  | _ => cases hi

theorem insists_answered {s : Session} {answer : Except Failure Value} {next : AfterAnswer}
    {request : Request} {seconds : Double} {pause : Pause}
    (ha : (s.answered answer next).2 = .paused pause) (hi : pause.insists = true) :
    (Pause.answer request seconds next).insists = true := by
  obtain ⟨other, time, place, name, newName, rfl⟩ :=
    insists_of_isAside (s.aside_answered answer next).progress ha hi
  have hm : (s.answered answer next).2.message? = some (.requested other time) := by rw [ha]; rfl
  have hn : next.insists answer = true := ((s.speaks_answered answer next).allowed _ hm).2
  cases next <;> first | rfl | cases hn

theorem guarded_move (hs : p.session.Single) (hg : p.Guarded)
    (possible : p.move? depth m = some q) : q.Guarded := by
  intro other pause hpause hi
  refine hasGreeted_move possible ?_
  cases moves_of_possible possible with
  | submit operation =>
    have ht := pause?_eq_some.mp hpause
    by_cases ho : other < p.tasks.length
    · rw [List.getElem?_append_left ho] at ht
      exact hg other pause (pause?_eq_some.mpr ht) hi
    · rw [List.getElem?_append_right (Nat.le_of_not_lt ho)] at ht
      have hmem := List.mem_of_getElem? ht
      simp at hmem
  | command | beginExchange | answerExchange | announceExchange => exact hg other pause hpause hi
  | begin created begins =>
    obtain hp | hp := pause?_advance hpause
    · exact hg other pause hp hi
    · exact hasGreeted_of_begin hs begins hp hi
  | @wake who number next outcome paused ended =>
    obtain hp | hp := pause?_advance hpause
    · exact hg other pause hp hi
    · cases outcome <;> cases next <;> cases hp
      cases hi
  | grant paused holds =>
    obtain hp | hp := pause?_advance hpause
    · exact hg other pause hp hi
    · cases hp
      cases hi
  | @sent who n next isDelivered outcome paused =>
    obtain hp | hp := pause?_advance hpause
    · exact hg other pause hp hi
    · obtain ⟨request, seconds, place, name, newName, rfl⟩ :=
        insists_of_isAside (isAside_noticeSent outcome next) hp hi
      have hm := congrArg Progress.message? hp
      have hr := ((speaks_noticeSent _ outcome next).allowed _ hm).2
      exact hs.hasGreeted ((p.session.rests_deliver isDelivered n).lives.isReady hr)
  | answer answer paused =>
    obtain hp | hp := pause?_advance hpause
    · exact hg other pause hp hi
    · exact hg _ _ paused (insists_answered hp hi)

theorem guarded_run (run : Run depth (ofSession (.start settings)) steps q) : q.Guarded := by
  induction run with
  | start =>
    intro who pause h
    simp [pause?, ofSession] at h
  | next run possible ih => exact guarded_move (single_run run) ih possible

/-- A move adds to the messages what is said in its step. Messages that neither belong to the
handshake nor were composed by the host follow an exchange that has succeeded. -/
theorem said_move (hs : p.session.Single) (hg : p.Guarded) (possible : p.move? depth m = some q) :
    q.session.messages = p.session.messages ++ Step.said ⟨p, m, q⟩ ∧
      ∀ e ∈ Step.said ⟨p, m, q⟩, e.isHandshake = true ∨ Step.isDirect ⟨p, m, q⟩ = true ∨
        p.session.HasGreeted := by
  have adds {l : List Event} (h : q.session.messages = p.session.messages ++ l)
      (hl : ∀ e ∈ l, e.isHandshake = true ∨ Step.isDirect ⟨p, m, q⟩ = true ∨
        p.session.HasGreeted) :
      q.session.messages = p.session.messages ++ Step.said ⟨p, m, q⟩ ∧
        ∀ e ∈ Step.said ⟨p, m, q⟩, e.isHandshake = true ∨ Step.isDirect ⟨p, m, q⟩ = true ∨
          p.session.HasGreeted := by
    have hsaid : Step.said ⟨p, m, q⟩ = l := by simp [Step.said, h]
    rw [hsaid]
    exact ⟨h, hl⟩
  have silent (h : q.session.messages = p.session.messages) :=
    adds (l := []) (by simp [h]) (by simp)
  have speaks {P : Prop} {s : Session} {a : Session.Advance} (hq : q.session = a.1)
      (hm : s.messages = p.session.messages) (h : Speaks P s a)
      (hP : P → Step.isDirect ⟨p, m, q⟩ = true ∨ p.session.HasGreeted) :=
    adds (l := a.2.message?.toList) (by rw [hq, h.messages, hm])
      fun e he => .inr (hP (h.allowed e (Option.mem_toList.mp he)).2)
  cases moves_of_possible possible with
  | submit operation => exact silent rfl
  | @begin who operation a created begins =>
    refine speaks rfl rfl (p.session.speaks_begin depth who begins) ?_
    rintro (hd | hr | ⟨-, hsucc⟩)
    · left
      simpa [Step.isDirect, begun?_begin _ created] using hd
    · exact .inr (hs.hasGreeted hr)
    · exact .inr hsucc
  | command performs => exact silent (messages_commands.perform performs)
  | @beginExchange number scheduled =>
    obtain ⟨why, -, hb⟩ | ⟨i, -, hb⟩ := p.session.beginExchange_cases number
    · exact silent (by rw [hb]; rfl)
    · refine adds ((congrArg Session.messages hb).trans ?_) (l := [.requested (.introduce i)
        (p.session.settings.seconds * Settings.handshakeFactor)]) ?_
      · simp [messages, Event.isMessage]
      · intro e he
        rw [List.mem_singleton.mp he]
        exact .inl rfl
  | @answerExchange number answer requested =>
    obtain ⟨-, why, ha⟩ | ⟨c, -, ⟨-, ha⟩ | ⟨-, ha⟩⟩ :=
      p.session.exchangeAnswered_cases number answer
    · exact silent ((congrArg Session.messages ha).trans (messages_exchangeFailed _ _ _))
    · exact silent (by rw [ha]; rfl)
    · refine adds ((congrArg Session.messages ha).trans (messages_record_message _ rfl)) ?_
      intro e he
      rw [List.mem_singleton.mp he]
      exact .inl rfl
  | announceExchange isDelivered outcome announcing =>
    exact silent (messages_deliver p.session isDelivered .initialized)
  | @wake who number next outcome paused ended =>
    refine speaks rfl rfl (p.session.speaks_afterHandshake next outcome) fun hi => .inr ?_
    obtain ⟨e, he, ho⟩ := Option.bind_eq_some_iff.mp ended
    have hsucc : e = .succeeded := by
      cases e with
      | succeeded => rfl
      | failed why =>
        cases ho
        cases next <;> cases hi
      | _ => cases ho
    subst hsucc
    exact List.mem_of_getElem? he
  | grant paused holds =>
    exact speaks rfl rfl (p.session.speaks_turnCame _ _) fun _ => .inr (hg _ _ paused rfl)
  | @sent who n next isDelivered outcome paused =>
    refine speaks rfl (messages_deliver p.session isDelivered n)
      (speaks_noticeSent _ outcome next) fun hr => .inr ?_
    exact hs.hasGreeted ((p.session.rests_deliver isDelivered n).lives.isReady hr)
  | @answer who request seconds next answer paused =>
    refine speaks rfl rfl (p.session.speaks_answered answer next) fun hi => .inr ?_
    refine hg _ _ paused ?_
    cases next <;> first | rfl | cases hi

/-- An exchange that has succeeded was answered, and the server was told so. -/
theorem greeted_of_hasGreeted (run : Run depth (ofSession (.start settings)) steps q)
    (unclosed : q.session.closings = 0) (h : q.session.HasGreeted) :
    steps.any Step.answers = true ∧ steps.any Step.announces = true ∧
      steps.any (fun x => x.move.announces) = true := by
  obtain ⟨k, hk⟩ := List.mem_iff_getElem?.mp h
  have hended : endOf k steps = some (.ok ()) := by
    rw [← ended?_run run unclosed]
    simp [ended?, hk, Exchange.outcome?]
  obtain ⟨x, hx, hends⟩ := List.exists_of_findSome?_eq_some hended
  have hannounces : x.move.announces = true := by
    unfold Step.ends? at hends
    split at hends
    · split at hends
      · split at hends <;> cases hends
      · cases hends
    · split at hends
      · split at hends <;> cases hends
      · cases hends
    · rename_i hm
      rw [hm]
      rfl
    · cases hends
  -- what was announced had been answered and handed over before
  obtain ⟨first, second, rfl⟩ := List.append_of_mem hx
  have possible := run.step_possible (x := x) (by simp)
  have hheralded : x.before.session.IsHeralded := by
    obtain ⟨p, m, r⟩ := x
    dsimp only at possible hannounces ⊢
    cases moves_of_possible possible with
    | announceExchange isDelivered outcome announcing =>
      exact .inr (List.mem_of_getElem? announcing)
    | _ => cases hannounces
  obtain ⟨y, hy, ha, hans, -⟩ := exists_announces run.at_step.1 hheralded
  have hmem : y ∈ first ++ x :: second := List.mem_append_left _ hy
  exact ⟨List.any_eq_true.mpr ⟨y, hmem, hans⟩, List.any_eq_true.mpr ⟨y, hmem, ha⟩,
    List.any_eq_true.mpr ⟨x, hx, hannounces⟩⟩

/-! ## Opening a document -/

theorem said_eq_nil (h : q.session.messages = p.session.messages) :
    Step.said ⟨p, m, q⟩ = [] := by
  simp [Step.said, h]

/-- Whoever asks for opening a document waits at first, or gives up, and says nothing; or it
opens the document. -/
theorem opens_handshake (s : Session) (place : Nat) (text : Document) :
    ((s.handshake (.openBuffer place text)).2.hasOnlyWaited = true ∧
        (s.handshake (.openBuffer place text)).1.messages = s.messages) ∨
      (s.handshake (.openBuffer place text)).2.hasOpened = true := by
  unfold handshake
  split
  · exact .inl ⟨rfl, rfl⟩
  · dsimp only
    split
    · rename_i outcome _
      cases outcome with
      | error why => exact .inl ⟨rfl, s.messages_joined⟩
      | ok u => exact .inr rfl
    · exact .inl ⟨rfl, s.messages_joined⟩

/-- Whoever has asked for opening a document and has only waited goes on to wait, gives up, or
opens it. -/
theorem opens_move {progress : Progress} (possible : p.move? depth m = some q)
    (h : p.tasks[who]? = some (.running progress)) :
    ∃ later, q.tasks[who]? = some (.running later) ∧
      (progress.hasOpened = true → later.hasOpened = true) ∧
      (progress.hasOnlyWaited = true → later.hasOpened = true ∨
        (later.hasOnlyWaited = true ∧
          (m.task? = some who → Step.said ⟨p, m, q⟩ = []))) := by
  by_cases ht : m.task? = some who
  · have hself := tasks_advance h
    have hpause {pause : Pause} (hp : p.pause? who = some pause) : progress = .paused pause := by
      have htask := pause?_eq_some.mp hp
      rw [h] at htask
      injection htask with htask
      injection htask
    cases moves_of_possible possible with
    | begin created begins =>
      cases ht
      rw [h] at created
      cases created
    | @wake who number next outcome paused ended =>
      cases ht
      refine ⟨_, hself _, ?_⟩
      rw [hpause paused]
      refine ⟨fun ho => (by cases ho), fun hwaited => ?_⟩
      cases next with
      | finish => cases hwaited
      | openBuffer place text =>
        cases outcome with
        | error why => exact .inr ⟨rfl, fun _ => said_eq_nil rfl⟩
        | ok u => exact .inl rfl
    | grant paused holds =>
      cases ht
      refine ⟨_, hself _, ?_⟩
      rw [hpause paused]
      exact ⟨fun ho => (by cases ho), fun hwaited => (by cases hwaited)⟩
    | @sent who n next isDelivered outcome paused =>
      cases ht
      refine ⟨_, hself _, ?_⟩
      rw [hpause paused]
      refine ⟨fun ho => ?_, fun hwaited => (by cases hwaited)⟩
      cases next with
      | opened place => cases outcome <;> rfl
      | _ => cases ho
    | answer answer paused =>
      cases ht
      refine ⟨_, hself _, ?_⟩
      rw [hpause paused]
      exact ⟨fun ho => (by cases ho), fun hwaited => (by cases hwaited)⟩
    | _ => cases ht
  · obtain hq | ⟨hm, -⟩ := task_move possible h
    · exact ⟨progress, hq, id, fun hwaited => .inr ⟨hwaited, fun hm => absurd hm ht⟩⟩
    · exact absurd hm ht

/-- Somebody who has asked for opening a document has opened it, or it has said nothing. -/
theorem opens_run {progress : Progress} (run : Run depth p steps q)
    (h : p.tasks[who]? = some (.running progress)) :
    ∃ later, q.tasks[who]? = some (.running later) ∧
      (progress.hasOpened = true → later.hasOpened = true) ∧
      (progress.hasOnlyWaited = true → later.hasOpened = true ∨
        (later.hasOnlyWaited = true ∧ ∀ x ∈ steps, x.move.task? = some who → x.said = [])) := by
  induction run with
  | start => exact ⟨progress, h, id, fun hwaited => .inr ⟨hwaited, by simp⟩⟩
  | @next steps r q m run possible ih =>
    obtain ⟨middle, hr, hopened, hwaits⟩ := ih
    obtain ⟨later, hq, hopened', hwaits'⟩ := opens_move possible hr
    refine ⟨later, hq, fun ho => hopened' (hopened ho), fun hwaited => ?_⟩
    obtain ho | ⟨hm, hsaid⟩ := hwaits hwaited
    · exact .inl (hopened' ho)
    · obtain ho | ⟨hl, hlast⟩ := hwaits' hm
      · exact .inl ho
      · refine .inr ⟨hl, fun x hx hwho => ?_⟩
        rcases List.mem_append.mp hx with hx | hx
        · exact hsaid x hx hwho
        · rw [List.mem_singleton] at hx
          subst hx
          exact hlast hwho

/-- An operation that has not begun has made no move. -/
theorem task?_ne_of_created {operation : Operation} (run : Run depth p steps q)
    (h : q.tasks[who]? = some (.created operation)) :
    ∀ x ∈ steps, x.move.task? ≠ some who := by
  intro x hx hm
  obtain ⟨first, second, rfl⟩ := List.append_of_mem hx
  have possible := run.step_possible (x := x) (by simp)
  obtain ⟨progress, hr⟩ := running_of_task? possible hm
  obtain ⟨later, hq, -⟩ := opens_run run.at_step.2 hr
  rw [h] at hq
  cases hq

/-- Whoever begins to open a document has opened it, or it has said nothing. -/
theorem opens_begin {name : String} {text : Document}
    (possible : p.move? depth (.begin who) = some q)
    (created : p.tasks[who]? = some (.created (.openBuffer name text))) :
    ∃ progress, q.tasks[who]? = some (.running progress) ∧
      (progress.hasOpened = true ∨
        (progress.hasOnlyWaited = true ∧ Step.said ⟨p, .begin who, q⟩ = [])) := by
  simp only [move?, created, Session.begin, Option.map_some, Option.some.injEq] at possible
  subst possible
  refine ⟨(p.session.inBuffer name fun place => p.session.handshake (.openBuffer place text)).2,
    tasks_advance created _, ?_⟩
  unfold inBuffer
  split
  · exact .inr ⟨rfl, said_eq_nil rfl⟩
  · rename_i place _
    obtain ⟨hwaited, hm⟩ | ho := opens_handshake p.session place text
    · exact .inr ⟨hwaited, said_eq_nil hm⟩
    · exact .inl ho

/-- Whoever could not open a document has sent nothing. -/
theorem said_eq_nil_of_failed {x : Step} {name : String} {text : Document} {why : Failure}
    (run : Run depth p steps q) (hx : x ∈ steps) (hm : x.move = .begin who)
    (hb : x.begun? = some (.openBuffer name text)) (hq : q.outcome? who = some (.error why)) :
    ∀ y ∈ steps, y.move.task? = some who → y.said = [] := by
  obtain ⟨first, second, rfl⟩ := List.append_of_mem hx
  obtain ⟨hbefore, hrest⟩ := run.at_step
  have possible := run.step_possible (x := x) (by simp)
  obtain ⟨r, m, s⟩ := x
  dsimp only at hm hbefore hrest possible
  subst hm
  have created : r.tasks[who]? = some (.created (.openBuffer name text)) := by
    cases moves_of_possible possible with
    | begin created begins =>
      rw [begun?_begin _ created] at hb
      cases hb
      exact created
  obtain ⟨progress, hs, hstart⟩ := opens_begin possible created
  obtain ⟨later, hlater, hopened, hwaits⟩ := opens_run hrest hs
  have hfailed : later = .finished (.error why) := by
    rw [outcome?_eq_some.mp hq] at hlater
    cases hlater
    rfl
  subst hfailed
  -- who has opened a document does not fail any more
  obtain ho | ⟨hwaited, hsaid⟩ := hstart
  · cases hopened ho
  obtain ho | ⟨-, hquiet⟩ := hwaits hwaited
  · cases ho
  intro y hy hwho
  rcases List.mem_append.mp hy with hy | hy
  · exact absurd hwho (task?_ne_of_created hbefore created y hy)
  · rcases List.mem_cons.mp hy with rfl | hy
    · exact hsaid
    · exact hquiet y hy hwho

/-- The messages of a run are those that are said in its steps. -/
theorem messages_run (run : Run depth (ofSession (.start settings)) steps q) :
    q.session.messages = steps.flatMap Step.said := by
  induction run with
  | start => rfl
  | @next steps r q m run possible ih =>
    rw [(said_move (single_run run) (guarded_run run) possible).1, ih]
    simp

/-- As long as a session is not closed, everything that operations send of their own follows
an introduction that was answered and the notice that the session starts, and whoever fails to
open a document has sent nothing. -/
theorem greeted_first (run : Run depth (ofSession (.start settings)) steps q)
    (unclosed : q.session.closings = 0) : Greeted steps q := by
  refine ⟨messages_run run, along_of_forall fun first x second hs e he hh hd => ?_, ?_⟩
  · subst hs
    obtain ⟨hopen, possible⟩ := open_at_step run unclosed
    have hbefore := run.at_step.1
    obtain hshake | hdirect | hgreeted :=
      (said_move (single_run hbefore) (guarded_run hbefore) possible).2 e he
    · simp [hshake] at hh
    · simp [show x.isDirect = true from hdirect] at hd
    · exact greeted_of_hasGreeted hbefore hopen hgreeted
  · intro x hx who name text why hm hb hq
    exact said_eq_nil_of_failed run hx hm hb hq

end

/-- Two ask for opening their documents while the exchange goes on, which fails for both; one
asks again, and the session is ready when the server has answered. A change is sent, another
waits for its turn, and a symbol is renamed. -/
def greetingTwice : List Move :=
  [.command (.create "a" "file:///a" "text" .standard),
    .command (.create "b" "file:///b" "text" .standard),
    .submit (.openBuffer "a" (.ofText "a".toList)), .submit (.openBuffer "b" (.ofText "b".toList)),
    .submit (.openBuffer "a" (.ofText "a".toList)),
    .submit (.update "a" (.ofText "ab".toList) none none),
    .submit (.update "a" (.ofText "abc".toList) none none), .submit (.rename "a" ⟨0, 0⟩ "c"),
    .begin 0, .beginExchange 0, .begin 1,
    .answerExchange 0 (.error (.unreadableAnswer "initialize")),
    .wake 0, .begin 2, .wake 1, .beginExchange 1,
    .answerExchange 1 (.ok (Wire.ofIntroduced (.object [("renameProvider",
      .object [("prepareProvider", .bool true)])]))),
    .announceExchange 1 true (.error .brokenPipe), .wake 2, .begin 3, .sent 2 true (.ok ()),
    .begin 4, .begin 5, .sent 3 true (.ok ()), .grant 4,
    .answer 5 (.ok (.object [("placeholder", .text "a")])), .sent 4 true (.ok ())]

theorem greeted_greetingTwice :
    ∃ q, (ofSession (.start .standard)).run? 0 greetingTwice = some q ∧ q.session.closings = 0 ∧
      Greeted (trail 0 (ofSession (.start .standard)) greetingTwice) q :=
  ⟨_, rfl, rfl, greeted_first (run_trail rfl) rfl⟩

end Pool
end EditorLink
