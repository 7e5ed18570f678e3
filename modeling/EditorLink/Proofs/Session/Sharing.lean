import EditorLink.Proofs.Session.Handshake

/-!
# Who shares an exchange

Whoever asks for the handshake waits for the exchange that goes on, and ends as this one
does. An exchange that fails leaves the session as if nobody had asked, so whoever asks next
waits for a new one. After an exchange that has succeeded nobody waits any more. How an
exchange ends is read off the moves of a run, and all this holds as long as the session is
not closed.
-/
namespace EditorLink

namespace Session

/-- What an operation does after the handshake, if it asks for one when it starts. -/
def awaits? (s : Session) : Operation → Option AfterHandshake
  | .handshake => some .finish
  | .openBuffer name text => (s.find? name).map fun place => .openBuffer place text
  | _ => none

/-- How an exchange has ended, if it has. -/
def ended? (s : Session) (number : Nat) : Option (Except Failure Unit) :=
  (s.exchanges[number]?).bind Exchange.outcome?

/-- The exchange that callers join has not failed, and a session is initializing while its
server is asked, or told that the session starts. -/
structure Tidy (s : Session) : Prop where
  single : s.Single
  stored : ∀ k, s.current = some k → ∃ e, s.exchanges[k]? = some e ∧ e.isFailed = false
  shaking : ∀ e ∈ s.exchanges, e = .requested ∨ e = .announcing → s.phase = .initializing

section
variable {s t : Session} {number : Nat} {e : Exchange}

theorem begin_of_awaits {operation : Operation} {next : AfterHandshake} (depth who : Nat)
    (h : s.awaits? operation = some next) :
    s.begin depth who operation = some (s.handshake next) := by
  cases operation with
  | handshake =>
    cases h
    rfl
  | openBuffer name text =>
    obtain ⟨place, hp, rfl⟩ := Option.map_eq_some_iff.mp h
    simp only [begin, inBuffer, hp]
  | _ => cases h

/-- An operation that asks for no handshake leaves the exchanges alone when it starts. -/
theorem rests_of_awaits_eq_none {operation : Operation} {depth who : Nat} {a : Advance}
    (h : s.awaits? operation = none) (hb : s.begin depth who operation = some a) :
    Rests s a.1 := by
  obtain hl | ⟨command, rfl⟩ | rfl | ⟨name, text, rfl⟩ := s.local_begin depth who hb
  · exact hl.rests (s.speaks_begin depth who hb)
  · obtain ⟨b, hperform, rfl⟩ := Option.map_eq_some_iff.mp hb
    exact rests_commands.perform hperform
  · cases h
  · have hfind : s.find? name = none := Option.map_eq_none_iff.mp h
    simp only [begin, inBuffer, hfind] at hb
    cases hb
    exact Rests.refl s

theorem ended?_of_isFailed (he : s.exchanges[number]? = some e) (hf : e.isFailed = true) :
    ∃ why, s.ended? number = some (.error why) := by
  cases e with
  | failed why => exact ⟨why, by simp [ended?, he, Exchange.outcome?]⟩
  | _ => cases hf

theorem ended?_set {later : Exchange} (he : s.exchanges[number]? = some e)
    (ht : t.exchanges = s.exchanges.set number later) (k : Nat) :
    t.ended? k = if k = number then later.outcome? else s.ended? k := by
  have hlt : number < s.exchanges.length := (List.getElem?_eq_some_iff.mp he).1
  unfold ended?
  rw [ht]
  by_cases hk : k = number
  · subst hk
    rw [List.getElem?_set_self hlt, if_pos rfl]
    rfl
  · rw [List.getElem?_set_ne (Ne.symm hk), if_neg hk]

theorem ended?_of_appended (ht : t.exchanges = s.exchanges ++ [.scheduled]) (k : Nat) :
    t.ended? k = s.ended? k := by
  unfold ended?
  rw [ht]
  by_cases hk : k < s.exchanges.length
  · rw [List.getElem?_append_left hk]
  · have hnone : s.exchanges[k]? = none := List.getElem?_eq_none (Nat.le_of_not_lt hk)
    rw [List.getElem?_append_right (Nat.le_of_not_lt hk), hnone]
    cases k - s.exchanges.length <;> rfl

/-- An answer that can be read goes to the server once more; any other fails the exchange. -/
theorem exchanges_exchangeAnswered (hc : s.phase ≠ .closed) (answer : Except Failure Value) :
    (s.exchangeAnswered number answer).exchanges =
      s.exchanges.set number (match readAnswer .introduce Wire.introduced? answer with
        | .ok _ => .announcing
        | .error why => .failed why) := by
  cases answer with
  | error why => exact s.exchanges_exchangeFailed number why
  | ok v =>
    cases hv : Wire.introduced? v with
    | none =>
      have hr : readAnswer .introduce Wire.introduced? (.ok v) =
          .error (.unreadableAnswer RequestMethod.introduce.name) := by
        simp [readAnswer, bind, Except.bind, hv, throw, throwThe, MonadExceptOf.throw]
      simp only [exchangeAnswered, Except.bind, hv, hr]
      exact s.exchanges_exchangeFailed number _
    | some c =>
      have hr : readAnswer .introduce Wire.introduced? (.ok v) = .ok c := by
        simp [readAnswer, bind, Except.bind, hv, pure, Except.pure]
      simp only [exchangeAnswered, Except.bind, hv, hr, if_neg hc]
      rfl

theorem Tidy.rests (h : s.Tidy) (hr : Rests s t) (hc : t.phase ≠ .closed) : t.Tidy where
  single := h.single.rests hr
  stored := by
    rw [hr.current, hr.exchanges]
    exact h.stored
  shaking := by
    obtain ⟨hp, -⟩ | ⟨-, hp, -⟩ := hr.lives
    · rw [hp, hr.exchanges]
      exact h.shaking
    · exact absurd hp hc

theorem Tidy.scheduled (h : s.Tidy) (hn : s.current = none) : s.scheduled.Tidy where
  single := h.single.scheduled hn
  stored k hk := by
    cases hk
    exact ⟨.scheduled, by simp [Session.scheduled], rfl⟩
  shaking e he := by
    obtain he | he := List.mem_append.mp he
    · exact h.shaking e he
    · rw [List.mem_singleton.mp he]
      simp

/-- Where all exchanges have failed nobody is joined and the server is asked nothing. -/
theorem tidy_of_failed (hs : s.Single) (hn : s.current = none)
    (hf : ∀ (k : Nat) (e : Exchange), s.exchanges[k]? = some e → e.isFailed = true) : s.Tidy where
  single := hs
  stored k hk := by
    rw [hn] at hk
    cases hk
  shaking e he hb := by
    obtain ⟨k, hk⟩ := List.mem_iff_getElem?.mp he
    have hfail := hf k e hk
    obtain rfl | rfl := hb <;> cases hfail

/-- The one exchange that goes on comes to a stage at which it has not failed. -/
theorem Tidy.set (h : s.Tidy) (he : s.exchanges[number]? = some e) (hf : e.isFailed = false)
    {later : Exchange} (hl : later.isFailed = false)
    (ht : t.exchanges = s.exchanges.set number later)
    (hcurrent : t.current = s.current) (hsingle : t.Single)
    (hp : later = .requested ∨ later = .announcing → t.phase = .initializing) : t.Tidy where
  single := hsingle
  stored k hk := by
    rw [hcurrent, h.single.current_eq he hf] at hk
    cases hk
    have hlt : number < s.exchanges.length := (List.getElem?_eq_some_iff.mp he).1
    exact ⟨later, by rw [ht, List.getElem?_set_self hlt], hl⟩
  shaking e' he' hb := by
    obtain ⟨k, hk⟩ := List.mem_iff_getElem?.mp he'
    rw [ht] at hk
    by_cases hn : s.current = some k
    · -- it is the exchange that has just come to its next stage
      rw [h.single.current_eq he hf] at hn
      cases hn
      rw [List.getElem?_set_self (List.getElem?_eq_some_iff.mp he).1] at hk
      cases hk
      exact hp hb
    · have hfail : e'.isFailed = true := h.single.others_set he hf later k e' hk hn
      obtain rfl | rfl := hb <;> cases hfail

/-- The exchange that callers join goes on, or it has succeeded; if there is none, all have
failed. -/
theorem Tidy.current_cases (h : s.Tidy) :
    (s.current = none ∧ ∀ j < s.exchanges.length, ∃ why, s.ended? j = some (.error why)) ∨
      ∃ k < s.exchanges.length, s.current = some k ∧
        (s.ended? k = none ∨ s.ended? k = some (.ok ())) ∧
        ∀ j < s.exchanges.length, j ≠ k → ∃ why, s.ended? j = some (.error why) := by
  have hothers (j : Nat) (hj : j < s.exchanges.length) (hn : s.current ≠ some j) :
      ∃ why, s.ended? j = some (.error why) := by
    have he : s.exchanges[j]? = some s.exchanges[j] := List.getElem?_eq_getElem hj
    exact ended?_of_isFailed he (h.single.others j _ he hn)
  cases hcurrent : s.current with
  | none => exact .inl ⟨rfl, fun j hj => hothers j hj (by simp [hcurrent])⟩
  | some k =>
    obtain ⟨e, he, hf⟩ := h.stored k hcurrent
    have hk : k < s.exchanges.length := (List.getElem?_eq_some_iff.mp he).1
    refine .inr ⟨k, hk, rfl, ?_, fun j hj hne => hothers j hj ?_⟩
    · have hended : s.ended? k = e.outcome? := by simp [ended?, he]
      rw [hended]
      cases e with
      | failed why => cases hf
      | succeeded => exact .inr rfl
      | _ => exact .inl rfl
    · rw [hcurrent]
      simpa using Ne.symm hne

theorem handshake_of_joined {k : Nat} (hc : s.phase ≠ .closed) (hk : s.current = some k)
    (next : AfterHandshake) :
    s.handshake next = match s.ended? k with
      | some outcome => s.afterHandshake next outcome
      | none => (s, .paused (.exchange k next)) := by
  have hj : s.joined = (s, k) := by simp only [joined, hk]
  cases he : (s.exchanges[k]?).bind Exchange.outcome? <;>
    simp only [handshake, if_neg hc, hj, ended?, he]

theorem handshake_of_free (hc : s.phase ≠ .closed) (hn : s.current = none)
    (next : AfterHandshake) :
    s.handshake next = (s.scheduled, .paused (.exchange s.exchanges.length next)) := by
  have hj : s.joined = (s.scheduled, s.exchanges.length) := by
    simp only [joined, hn]
    rfl
  have hended : (s.scheduled.exchanges[s.exchanges.length]?).bind Exchange.outcome? = none := by
    simp [scheduled, Exchange.outcome?]
  unfold handshake
  rw [if_neg hc, hj]
  dsimp only
  rw [hended]

end
end Session

namespace Pool
open Session

namespace Step

/-- Who asks for the handshake in a step, and what it does afterwards. -/
def asks? (x : Step) : Option (Nat × AfterHandshake) :=
  match x.move with
  | .begin who => (x.begun?.bind x.before.session.awaits?).map fun next => (who, next)
  | _ => none

/-- How an exchange ends with a step: its introduction cannot be made, the server does not
answer it as it should, or the server was told that the session starts. -/
def ends? (number : Nat) (x : Step) : Option (Except Failure Unit) :=
  match x.move with
  | .beginExchange k =>
    if k = number then
      match x.before.session.settings.introduction k with
      | .ok _ => none
      | .error why => some (.error why)
    else none
  | .answerExchange k answer =>
    if k = number then
      match readAnswer .introduce Wire.introduced? answer with
      | .ok _ => none
      | .error why => some (.error why)
    else none
  | .announceExchange k _ _ => if k = number then some (.ok ()) else none
  | _ => none

end Step

/-- How an exchange ends in a run. -/
def endOf (number : Nat) (steps : List Step) : Option (Except Failure Unit) :=
  steps.findSome? (Step.ends? number)

section
variable {depth who number : Nat} {settings : Settings} {p q : Pool} {m : Move} {steps : List Step}

theorem Shakes.tidy {s t : Session} (h : s.Tidy) (hs : Shakes s m t) (hc : s.phase ≠ .closed)
    (hc' : t.phase ≠ .closed) : t.Tidy := by
  have hsingle : t.Single := hs.single h.single
  cases hs with
  | rests other rests => exact h.rests rests hc'
  | schedules other free rests => exact (h.scheduled free).rests rests hc'
  | gives scheduled unmade =>
    exact tidy_of_failed hsingle rfl fun k e => h.single.others_fail scheduled rfl _ k e
  | asks scheduled made => exact h.set scheduled rfl rfl rfl rfl hsingle fun _ => rfl
  | @fails number answer why requested unread =>
    have hp : s.phase = .initializing := h.shaking _ (List.mem_of_getElem? requested) (.inl rfl)
    have hnone : (s.exchangeFailed number why).current = none := by
      simp [exchangeFailed, hp]
    refine tidy_of_failed hsingle hnone fun k e he => ?_
    rw [exchanges_exchangeFailed] at he
    exact h.single.others_fail requested rfl why k e he
  | comesLate requested read closed => exact absurd closed hc
  | answers requested read unclosed =>
    have hp : s.phase = .initializing := h.shaking _ (List.mem_of_getElem? requested) (.inl rfl)
    exact h.set requested rfl rfl rfl rfl hsingle fun _ => hp
  | @announces number isDelivered outcome announcing =>
    have hd := s.rests_deliver isDelivered .initialized
    have hset : (exchangeAnnounced (deliver s isDelivered .initialized) number).exchanges =
        s.exchanges.set number .succeeded := by
      simp only [exchangeAnnounced, setExchange, hd.exchanges]
    exact h.set announcing rfl rfl hset hd.current hsingle (by simp)

theorem tidy_run (run : Run depth (ofSession (.start settings)) steps q)
    (unclosed : q.session.closings = 0) : q.session.Tidy := by
  induction run with
  | start =>
    refine tidy_of_failed (single_start settings) rfl fun k e he => ?_
    simp [ofSession, Session.start] at he
  | @next steps p q m run possible ih =>
    have hp : p.session.closings = 0 := by
      have hle := closings_le_move possible
      omega
    exact (shakes_move possible).tidy (ih hp) (phase_ne_closed run hp)
      (phase_ne_closed (run.next possible) unclosed)

theorem ends?_eq_none (hm : m.exchange? = none) : Step.ends? number ⟨p, m, q⟩ = none := by
  cases m <;> first | rfl | cases hm

/-- An exchange that has ended stays so, and one that goes on ends with a step that ends it. -/
theorem ended?_move (possible : p.move? depth m = some q) (hc : p.session.phase ≠ .closed) :
    q.session.ended? number =
      (p.session.ended? number).or (Step.ends? number ⟨p, m, q⟩) := by
  -- an exchange that is about to go on has not ended
  have hset {k : Nat} {e later : Exchange} (he : p.session.exchanges[k]? = some e)
      (ho : e.outcome? = none) (hq : q.session.exchanges = p.session.exchanges.set k later)
      (hends : Step.ends? number ⟨p, m, q⟩ = if k = number then later.outcome? else none) :
      q.session.ended? number =
        (p.session.ended? number).or (Step.ends? number ⟨p, m, q⟩) := by
    rw [ended?_set he hq, hends]
    by_cases hk : k = number
    · subst hk
      simp [ended?, he, ho]
    · simp [hk, Ne.symm hk]
  obtain ⟨hm, hq | hq⟩ | ⟨k, e, later, hm, -⟩ := (shakes_move possible).exchanges
  · rw [ends?_eq_none hm, Option.or_none, ended?, ended?, hq]
  · rw [ends?_eq_none hm, Option.or_none, ended?_of_appended hq]
  · cases moves_of_possible possible with
    | @beginExchange k scheduled =>
      obtain ⟨why, hw, hb⟩ | ⟨i, hi, hb⟩ := p.session.beginExchange_cases k
      · have he := congrArg Session.exchanges hb
        exact hset scheduled rfl he (by simp [Step.ends?, hw, Exchange.outcome?])
      · have he := congrArg Session.exchanges hb
        exact hset scheduled rfl he (by simp [Step.ends?, hi, Exchange.outcome?])
    | @answerExchange k answer requested =>
      refine hset requested rfl (exchanges_exchangeAnswered hc answer) ?_
      cases hr : readAnswer .introduce Wire.introduced? answer <;>
        simp [Step.ends?, hr, Exchange.outcome?]
    | @announceExchange k isDelivered outcome announcing =>
      have hs : (exchangeAnnounced (deliver p.session isDelivered .initialized) k).exchanges =
          p.session.exchanges.set k .succeeded := by
        simp only [exchangeAnnounced, setExchange,
          (p.session.rests_deliver isDelivered .initialized).exchanges]
      exact hset announcing rfl hs (by simp [Step.ends?, Exchange.outcome?])
    | _ => cases hm

/-- How an exchange has ended is told by the moves that have been made. -/
theorem ended?_run (run : Run depth (ofSession (.start settings)) steps q)
    (unclosed : q.session.closings = 0) : q.session.ended? number = endOf number steps := by
  induction run with
  | start => simp [ended?, ofSession, Session.start, endOf]
  | @next steps p q m run possible ih =>
    have hp : p.session.closings = 0 := by
      have hle := closings_le_move possible
      omega
    rw [ended?_move possible (phase_ne_closed run hp), ih hp]
    simp [endOf, List.findSome?_append]

/-! ## Those who ask -/

/-- Whoever waits for an exchange does so until it is woken after the exchange has ended. -/
theorem pause_exchange_move {next : AfterHandshake} (possible : p.move? depth m = some q)
    (h : p.pause? who = some (.exchange number next)) :
    q.pause? who = some (.exchange number next) ∨
      m = .wake who ∧ ∃ outcome, p.session.ended? number = some outcome ∧
        q = p.advance who (p.session.afterHandshake next outcome) := by
  have ht : p.tasks[who]? = some (.running (.paused (.exchange number next))) :=
    pause?_eq_some.mp h
  obtain hq | ⟨hw, -⟩ := task_move possible ht
  · exact .inl (pause?_eq_some.mpr hq)
  · cases moves_of_possible possible with
    | begin created begins =>
      cases hw
      rw [ht] at created
      cases created
    | wake paused ended =>
      cases hw
      rw [h] at paused
      cases paused
      exact .inr ⟨rfl, _, ended, rfl⟩
    | grant paused holds =>
      cases hw
      rw [h] at paused
      cases paused
    | sent isDelivered outcome paused =>
      cases hw
      rw [h] at paused
      cases paused
    | answer answer paused =>
      cases hw
      rw [h] at paused
      cases paused
    | _ => cases hw

theorem lt_of_pause {pause : Pause} (h : p.pause? who = some pause) : who < p.tasks.length :=
  (List.getElem?_eq_some_iff.mp (pause?_eq_some.mp h)).1

/-- Whoever asked for nothing but the handshake ends as its exchange does. -/
theorem outcome?_afterHandshake (hw : who < p.tasks.length) (s : Session)
    (outcome : Except Failure Unit) :
    (p.advance who (s.afterHandshake .finish outcome)).outcome? who =
      some (outcome.map fun _ => .done) := by
  cases outcome with
  | error why => simp [outcome?, advance, afterHandshake, stop, hw, Except.map]
  | ok u => simp [outcome?, advance, afterHandshake, finish, hw, Except.map]

/-- Whoever waits for an exchange still does, or was woken when the exchange had ended. -/
theorem pause_exchange_run {next : AfterHandshake} (run : Run depth p steps q)
    (h : p.pause? who = some (.exchange number next)) :
    q.pause? who = some (.exchange number next) ∨
      ∃ first w second outcome, steps = first ++ w :: second ∧ w.move = .wake who ∧
        w.before.session.ended? number = some outcome ∧
        w.after = w.before.advance who (w.before.session.afterHandshake next outcome) ∧
        (next = .finish → q.outcome? who = some (outcome.map fun _ => .done)) := by
  induction run with
  | start => exact .inl h
  | @next steps r q m run possible ih =>
    obtain hr | ⟨first, w, second, outcome, rfl, hm, he, ha, ho⟩ := ih
    · obtain hq | ⟨rfl, outcome, he, rfl⟩ := pause_exchange_move possible hr
      · exact .inl hq
      · refine .inr ⟨steps, _, [], outcome, rfl, rfl, he, rfl, ?_⟩
        rintro rfl
        exact outcome?_afterHandshake (lt_of_pause hr) r.session outcome
    · refine .inr ⟨first, w, second ++ [⟨r, m, q⟩], outcome, by simp, hm, he, ha, fun hn => ?_⟩
      exact outcome?_move possible (ho hn)

theorem asks?_eq_some {x : Step} {next : AfterHandshake} (h : x.asks? = some (who, next)) :
    x.move = .begin who ∧ ∃ operation, x.before.tasks[who]? = some (.created operation) ∧
      x.before.session.awaits? operation = some next := by
  unfold Step.asks? at h
  split at h
  · rename_i other hm
    obtain ⟨found, hb, heq⟩ := Option.map_eq_some_iff.mp h
    cases heq
    obtain ⟨operation, hbegun, ha⟩ := Option.bind_eq_some_iff.mp hb
    refine ⟨hm, operation, ?_, ha⟩
    unfold Step.begun? at hbegun
    rw [hm] at hbegun
    dsimp only at hbegun
    split at hbegun
    · cases hbegun
      assumption
    · cases hbegun
  · cases h

/-- What asking for the handshake comes to is decided by the session. -/
theorem after_eq_of_asks {x : Step} {next : AfterHandshake}
    (possible : x.before.move? depth x.move = some x.after) (h : x.asks? = some (who, next)) :
    who < x.before.tasks.length ∧
      x.after = x.before.advance who (x.before.session.handshake next) := by
  obtain ⟨hm, operation, created, ha⟩ := asks?_eq_some h
  have hw : who < x.before.tasks.length := (List.getElem?_eq_some_iff.mp created).1
  rw [hm] at possible
  simp only [move?, created, begin_of_awaits depth who ha, Option.map_some] at possible
  exact ⟨hw, (Option.some.inj possible).symm⟩

/-- Whoever asks for no handshake leaves it alone. -/
theorem rests_move (possible : p.move? depth m = some q) (other : m.exchange? = none)
    (ha : Step.asks? ⟨p, m, q⟩ = none) : Rests p.session q.session := by
  cases moves_of_possible possible with
  | submit operation => exact Rests.refl _
  | @begin who operation a created begins =>
    have hn : p.session.awaits? operation = none := by
      simpa [Step.asks?, begun?_begin _ created] using ha
    exact rests_of_awaits_eq_none hn begins
  | command performs => exact rests_commands.perform performs
  | wake paused ended =>
    exact (p.session.local_afterHandshake _ _).rests (speaks_afterHandshake _ _ _)
  | grant paused holds => exact (p.session.local_turnCame _ _).rests (speaks_turnCame _ _ _)
  | sent isDelivered outcome paused =>
    exact (p.session.rests_deliver _ _).trans
      ((local_noticeSent _ _ _).rests (speaks_noticeSent _ _ _))
  | answer answer paused =>
    exact (p.session.aside_answered _ _).mild.local.rests (speaks_answered _ _ _)
  | beginExchange | answerExchange | announceExchange => cases other

/-- Where all exchanges have failed none goes on until somebody asks. -/
theorem Rests.of_failed (possible : p.move? depth m = some q)
    (hf : ∀ j < p.session.exchanges.length, ∃ why, p.session.ended? j = some (.error why))
    (ha : Step.asks? ⟨p, m, q⟩ = none) : Rests p.session q.session := by
  refine rests_move possible ?_ ha
  have hno {k : Nat} {e : Exchange} (he : p.session.exchanges[k]? = some e)
      (ho : e.outcome? = none) : False := by
    obtain ⟨why, hw⟩ := hf k (List.getElem?_eq_some_iff.mp he).1
    simp [ended?, he, ho] at hw
  cases moves_of_possible possible with
  | beginExchange scheduled => exact (hno scheduled rfl).elim
  | answerExchange answer requested => exact (hno requested rfl).elim
  | announceExchange isDelivered outcome announcing => exact (hno announcing rfl).elim
  | _ => rfl

/-- An exchange that has not ended can go on, whatever the server does. -/
theorem exists_move_of_ended?_eq_none (hk : number < p.session.exchanges.length)
    (ho : p.session.ended? number = none) :
    ∃ m r, m.exchange? = some number ∧ p.move? depth m = some r := by
  have he : p.session.exchanges[number]? = some p.session.exchanges[number] :=
    List.getElem?_eq_getElem hk
  generalize p.session.exchanges[number] = e at he
  cases e with
  | scheduled => exact ⟨.beginExchange number, _, rfl, by simp only [move?, he]; rfl⟩
  | requested =>
    exact ⟨.answerExchange number (.ok .null), _, rfl, by simp only [move?, he]; rfl⟩
  | announcing =>
    exact ⟨.announceExchange number true (.ok ()), _, rfl, by simp only [move?, he]; rfl⟩
  | succeeded => simp [ended?, he, Exchange.outcome?] at ho
  | failed why => simp [ended?, he, Exchange.outcome?] at ho

end

/-- What asking for the handshake comes to at once. -/
inductive Joins (past : List Step) (x : Step) (who : Nat) (next : AfterHandshake) : Prop where
  /-- It waits for the exchange that goes on, all others having failed. -/
  | shares {number : Nat} (asked : number < x.before.session.exchanges.length)
    (goesOn : endOf number past = none)
    (others : ∀ j < x.before.session.exchanges.length, j ≠ number →
      ∃ why, endOf j past = some (.error why))
    (after : x.after = x.before.advance who (x.before.session, .paused (.exchange number next)))
  /-- All exchanges have failed, and it waits for a new one. -/
  | renews
    (failed : ∀ j < x.before.session.exchanges.length, ∃ why, endOf j past = some (.error why))
    (after : x.after = x.before.advance who (x.before.session.scheduled,
      .paused (.exchange x.before.session.exchanges.length next)))
  /-- An exchange has succeeded, and it goes on without sending anything for the handshake. -/
  | passes {number : Nat} (succeeded : endOf number past = some (.ok ()))
    (after : x.after = x.before.advance who (x.before.session.afterHandshake next (.ok ())))
    (quiet : next = .finish →
      x.after.session = x.before.session ∧ x.after.outcome? who = some (.ok .done))

/-- What has become of somebody who waited for an exchange. -/
inductive Awaits (depth : Nat) (steps : List Step) (q : Pool) (who number : Nat)
    (next : AfterHandshake) : Prop where
  /-- It still waits, and the exchange can go on or it can be told how the exchange has ended. -/
  | waits (paused : q.pause? who = some (.exchange number next))
    (unstuck : match endOf number steps with
      | none => ∃ m r, m.exchange? = some number ∧ q.move? depth m = some r
      | some outcome =>
        q.move? depth (.wake who) =
          some (q.advance who (q.session.afterHandshake next outcome)))
  /-- It has gone on with what the exchange came to. -/
  | resumed {w : Step} {outcome : Except Failure Unit} (mem : w ∈ steps)
    (wakes : w.move = .wake who)
    (ended : endOf number steps = some outcome)
    (after : w.after = w.before.advance who (w.before.session.afterHandshake next outcome))
    (finished : next = .finish → q.outcome? who = some (outcome.map fun _ => .done))

/-- How those who ask for the handshake share the exchanges of a run. -/
structure Shared (depth : Nat) (steps : List Step) (q : Pool) : Prop where
  joins : Along (fun past x => ∀ who next, x.asks? = some (who, next) → Joins past x who next)
    [] steps
  /-- Whoever waits for an exchange goes on with what this one comes to. -/
  awaits : ∀ x ∈ steps, ∀ who number next, x.asks? = some (who, next) →
    x.after.pause? who = some (.exchange number next) → Awaits depth steps q who number next
  /-- When all exchanges have ended and everybody was told, all who asked have finished. -/
  finishes : (∀ number < q.session.exchanges.length, (endOf number steps).isSome = true) →
    (∀ who, q.move? depth (.wake who) = none) →
    ∀ x ∈ steps, ∀ who number, x.asks? = some (who, .finish) →
      x.after.pause? who = some (.exchange number .finish) →
      ∃ outcome, endOf number steps = some outcome ∧
        q.outcome? who = some (outcome.map fun _ => .done)
  /-- An exchange that fails leaves the session as if nobody had asked. -/
  fails : ∀ x ∈ steps, ∀ number why, x.ends? number = some (.error why) →
    x.after.session.phase = .uninitialized ∧ x.after.session.isReady = false ∧
      x.after.session.current = none
  /-- The first who asks after an exchange has failed waits for a new one. -/
  retries : ∀ first x middle y rest, steps = first ++ x :: (middle ++ y :: rest) →
    ∀ number why, x.ends? number = some (.error why) → (∀ z ∈ middle, z.asks? = none) →
    ∀ who next, y.asks? = some (who, next) →
      y.after = y.before.advance who (y.before.session.scheduled,
        .paused (.exchange y.before.session.exchanges.length next))
  /-- An exchange sends an introduction of its own when it begins. -/
  sends : ∀ x ∈ steps, ∀ number i, x.move = .beginExchange number →
    x.before.session.settings.introduction number = .ok i →
    x.after.session.messages = x.before.session.messages ++
      [.requested (.introduce i) (x.before.session.settings.seconds * Settings.handshakeFactor)]

section
variable {depth who number : Nat} {settings : Settings} {p q : Pool} {m : Move} {steps : List Step}

/-- An exchange that fails leaves the session as if nobody had asked. -/
theorem failed_of_ends? (h : p.session.Tidy) (possible : p.move? depth m = some q) {why : Failure}
    (he : Step.ends? number ⟨p, m, q⟩ = some (.error why)) :
    q.session.phase = .uninitialized ∧ q.session.isReady = false ∧ q.session.current = none := by
  cases moves_of_possible possible with
  | @beginExchange k scheduled =>
    have hr : p.session.isReady = false := h.single.isReady_eq_false scheduled rfl nofun
    obtain ⟨w, hw, hb⟩ | ⟨i, hi, hb⟩ := p.session.beginExchange_cases k
    · dsimp only
      rw [hb]
      exact ⟨rfl, hr, rfl⟩
    · simp [Step.ends?, hi] at he
  | @answerExchange k answer requested =>
    have hr : p.session.isReady = false := h.single.isReady_eq_false requested rfl nofun
    have hp : p.session.phase = .initializing :=
      h.shaking _ (List.mem_of_getElem? requested) (.inl rfl)
    obtain ⟨-, w, hb⟩ | ⟨c, hc, -⟩ := p.session.exchangeAnswered_cases k answer
    · dsimp only
      rw [hb]
      simp [exchangeFailed, hp, setExchange, hr]
    · -- an answer that can be read ends nothing
      have hread : readAnswer .introduce Wire.introduced? answer = .ok c := by
        cases answer with
        | error why => cases hc
        | ok v =>
          have hv : Wire.introduced? v = some c := hc
          simp [readAnswer, bind, Except.bind, pure, Except.pure, hv]
      simp [Step.ends?, hread] at he
  | announceExchange isDelivered outcome announcing => simp [Step.ends?] at he
  | _ => cases he

theorem endOf_append (first second : List Step) :
    endOf number (first ++ second) = (endOf number first).or (endOf number second) := by
  simp [endOf, List.findSome?_append]

/-- What asking for the handshake comes to in a run. -/
theorem joins_of_asks {x : Step} {next : AfterHandshake}
    (run : Run depth (ofSession (.start settings)) steps x.before)
    (unclosed : x.before.session.closings = 0)
    (possible : x.before.move? depth x.move = some x.after) (h : x.asks? = some (who, next)) :
    Joins steps x who next := by
  have htidy := tidy_run run unclosed
  have hc := phase_ne_closed run unclosed
  obtain ⟨hw, hafter⟩ := after_eq_of_asks possible h
  have hended (j : Nat) : x.before.session.ended? j = endOf j steps := ended?_run run unclosed
  obtain ⟨hn, hfailed⟩ | ⟨k, hk, hcurrent, he | he, hothers⟩ := htidy.current_cases
  · rw [handshake_of_free hc hn] at hafter
    exact .renews (fun j hj => hended j ▸ hfailed j hj) hafter
  · rw [handshake_of_joined hc hcurrent, he] at hafter
    exact .shares hk (hended k ▸ he) (fun j hj hne => hended j ▸ hothers j hj hne) hafter
  · rw [handshake_of_joined hc hcurrent, he] at hafter
    refine .passes (hended k ▸ he) hafter ?_
    rintro rfl
    rw [hafter]
    exact ⟨rfl, outcome?_afterHandshake hw _ _⟩

/-- Where all exchanges have failed there is none to join until somebody asks. -/
theorem free_run {middle : List Step} (run : Run depth p middle q)
    (hf : ∀ j < p.session.exchanges.length, ∃ why, p.session.ended? j = some (.error why))
    (hn : p.session.current = none) (ha : ∀ z ∈ middle, z.asks? = none) :
    q.session.current = none ∧
      ∀ j < q.session.exchanges.length, ∃ why, q.session.ended? j = some (.error why) := by
  induction run with
  | start => exact ⟨hn, hf⟩
  | @next middle r q m run possible ih =>
    obtain ⟨hnone, hfailed⟩ := ih fun z hz => ha z (List.mem_append_left _ hz)
    have hlast : Step.asks? ⟨r, m, q⟩ = none :=
      ha _ (List.mem_append_right _ (List.mem_singleton_self _))
    have hrests : Rests r.session q.session := Rests.of_failed possible hfailed hlast
    refine ⟨hrests.current.trans hnone, ?_⟩
    unfold ended? at hfailed ⊢
    rw [hrests.exchanges]
    exact hfailed

/-- Before a step of a run on which the session is never closed, it was not closed either. -/
theorem open_at_step {first second : List Step} {x : Step}
    (run : Run depth p (first ++ x :: second) q) (unclosed : q.session.closings = 0) :
    x.before.session.closings = 0 ∧ x.before.move? depth x.move = some x.after := by
  have possible := run.step_possible (x := x) (by simp)
  have hstep := closings_le_move possible
  have hle := closings_le_run run.at_step.2
  exact ⟨by omega, possible⟩

/-- Whoever waited for an exchange has gone on with what this one came to, or can do so. -/
theorem awaits_of_asks {first second : List Step} {x : Step} {next : AfterHandshake}
    (run : Run depth (ofSession (.start settings)) (first ++ x :: second) q)
    (unclosed : q.session.closings = 0)
    (paused : x.after.pause? who = some (.exchange number next))
    (asked : number < q.session.exchanges.length) :
    Awaits depth (first ++ x :: second) q who number next := by
  have hended : q.session.ended? number = endOf number (first ++ x :: second) :=
    ended?_run run unclosed
  obtain hq | ⟨front, w, back, outcome, rfl, hm, he, ha, ho⟩ :=
    pause_exchange_run run.at_step.2 paused
  · refine .waits hq ?_
    split
    · rename_i hnone
      exact exists_move_of_ended?_eq_none asked (hended.trans hnone)
    · rename_i outcome hsome
      have hover : (q.session.exchanges[number]?).bind Exchange.outcome? = some outcome :=
        hended.trans hsome
      simp only [move?, hq, hover, Option.map_some]
  · have hsplit : first ++ x :: (front ++ w :: back) = (first ++ x :: front) ++ w :: back := by simp
    rw [hsplit] at run ⊢
    obtain ⟨hbefore, hrest⟩ := run.at_step
    have hw : w.before.session.closings = 0 := (open_at_step run unclosed).1
    have hend : endOf number (first ++ x :: front) = some outcome :=
      (ended?_run hbefore hw).symm.trans he
    refine .resumed (List.mem_append_right _ List.mem_cons_self) hm ?_ ha ho
    rw [endOf_append, hend]
    rfl

theorem length_exchanges_le_run (run : Run depth p steps q) :
    p.session.exchanges.length ≤ q.session.exchanges.length := by
  induction run with
  | start => exact Nat.le_refl _
  | next run possible ih =>
    refine Nat.le_trans ih ?_
    obtain ⟨-, h | h⟩ | ⟨k, e, later, -, -, -, h⟩ := (shakes_move possible).exchanges <;>
      simp [h]

/-- Whoever waits for an exchange after asking waits for one that was asked for. -/
theorem Joins.asked {past : List Step} {x : Step} {next : AfterHandshake}
    (h : Joins past x who next) (hw : who < x.before.tasks.length)
    (paused : x.after.pause? who = some (.exchange number next)) :
    number < x.after.session.exchanges.length := by
  have hpause (a : Advance) (ha : x.after = x.before.advance who a) :
      a.2 = .paused (.exchange number next) := by
    rw [ha, pause?_eq_some] at paused
    simpa [advance, hw] using paused
  cases h with
  | shares asked goesOn others after =>
    cases hpause _ after
    rw [after]
    exact asked
  | renews failed after =>
    cases hpause _ after
    rw [after]
    simp [advance, scheduled]
  | passes succeeded after quiet =>
    have hp := hpause _ after
    cases next <;> cases hp

/-- What asking for the handshake comes to in the middle of a run. -/
theorem joins_run {first second : List Step} {x : Step} {next : AfterHandshake}
    (run : Run depth (ofSession (.start settings)) (first ++ x :: second) q)
    (unclosed : q.session.closings = 0) (ha : x.asks? = some (who, next)) :
    Joins first x who next := by
  obtain ⟨hopen, possible⟩ := open_at_step run unclosed
  exact joins_of_asks run.at_step.1 hopen possible ha

/-- Whoever waits for an exchange after asking waits for one that the run knows. -/
theorem asked_run {first second : List Step} {x : Step} {next : AfterHandshake}
    (run : Run depth (ofSession (.start settings)) (first ++ x :: second) q)
    (unclosed : q.session.closings = 0) (ha : x.asks? = some (who, next))
    (paused : x.after.pause? who = some (.exchange number next)) :
    number < q.session.exchanges.length := by
  obtain ⟨-, possible⟩ := open_at_step run unclosed
  have hw := (after_eq_of_asks possible ha).1
  have hasked := (joins_run run unclosed ha).asked hw paused
  exact Nat.lt_of_lt_of_le hasked (length_exchanges_le_run run.at_step.2)

/-- When all exchanges have ended and nobody is left who could be told, whoever has waited
for one has finished as it ended. -/
theorem finishes_of_awaits (asked : (endOf number steps).isSome = true)
    (hwoken : q.move? depth (.wake who) = none) (h : Awaits depth steps q who number .finish) :
    ∃ outcome, endOf number steps = some outcome ∧
      q.outcome? who = some (outcome.map fun _ => .done) := by
  cases h with
  | waits still unstuck =>
    split at unstuck
    · rename_i hnone
      rw [hnone] at asked
      cases asked
    · rw [hwoken] at unstuck
      cases unstuck
  | resumed mem wakes ended after finished => exact ⟨_, ended, finished rfl⟩

/-- The first who asks after an exchange has failed waits for a new one. -/
theorem retries_run {first middle rest : List Step} {x y : Step} {why : Failure}
    {next : AfterHandshake}
    (run : Run depth (ofSession (.start settings)) (first ++ x :: (middle ++ y :: rest)) q)
    (unclosed : q.session.closings = 0) (he : x.ends? number = some (.error why))
    (hquiet : ∀ z ∈ middle, z.asks? = none) (ha : y.asks? = some (who, next)) :
    y.after = y.before.advance who (y.before.session.scheduled,
      .paused (.exchange y.before.session.exchanges.length next)) := by
  obtain ⟨hopen, possible⟩ := open_at_step run unclosed
  obtain ⟨hbefore, hrest⟩ := run.at_step
  have hmiddle : Run depth x.after middle y.before := hrest.at_step.1
  have hsplit : first ++ x :: (middle ++ y :: rest) = (first ++ x :: middle) ++ y :: rest := by simp
  rw [hsplit] at run
  obtain ⟨hopen', possible'⟩ := open_at_step run unclosed
  have hclosings := closings_le_run hmiddle
  have hnone := (failed_of_ends? (tidy_run hbefore hopen) possible he).2.2
  have hfailed : ∀ j < x.after.session.exchanges.length,
      ∃ why, x.after.session.ended? j = some (.error why) := by
    obtain ⟨-, hf⟩ | ⟨k, -, hk, -⟩ := (tidy_run (hbefore.next possible) (by omega)).current_cases
    · exact hf
    · rw [hnone] at hk
      cases hk
  have hfree := (free_run hmiddle hfailed hnone hquiet).1
  have hphase := phase_ne_closed run.at_step.1 hopen'
  rw [(after_eq_of_asks possible' ha).2, handshake_of_free hphase hfree]

/-- An exchange sends an introduction of its own when it begins. -/
theorem sends_move {i : Introduction} (possible : p.move? depth (.beginExchange number) = some q)
    (hi : p.session.settings.introduction number = .ok i) :
    q.session.messages = p.session.messages ++
      [.requested (.introduce i) (p.session.settings.seconds * Settings.handshakeFactor)] := by
  cases moves_of_possible possible
  obtain ⟨why, hw, -⟩ | ⟨j, hj, hb⟩ := p.session.beginExchange_cases number
  · rw [hw] at hi
    cases hi
  · rw [hj] at hi
    cases hi
    dsimp only
    rw [hb]
    simp [messages, Event.isMessage]

/-- Those who ask for the handshake share the exchanges, as long as the session is not closed:
each joins the exchange that goes on, or has a new one if all have failed, and ends as this
one does; after an exchange that has succeeded nobody waits. -/
theorem shared_run (run : Run depth (ofSession (.start settings)) steps q)
    (unclosed : q.session.closings = 0) : Shared depth steps q := by
  have hawaits (x : Step) (hx : x ∈ steps) (who number : Nat) (next : AfterHandshake)
      (ha : x.asks? = some (who, next))
      (paused : x.after.pause? who = some (.exchange number next)) :
      number < q.session.exchanges.length ∧ Awaits depth steps q who number next := by
    obtain ⟨first, second, rfl⟩ := List.append_of_mem hx
    have hasked := asked_run run unclosed ha paused
    exact ⟨hasked, awaits_of_asks run unclosed paused hasked⟩
  refine ⟨?joins, fun x hx who number next ha paused => (hawaits x hx who number next ha paused).2,
    ?finishes, ?fails, ?retries, ?sends⟩
  case joins =>
    refine along_of_forall fun first x second hs who next ha => ?_
    subst hs
    exact joins_run run unclosed ha
  case finishes =>
    intro hall hwoken x hx who number ha paused
    obtain ⟨hasked, hawait⟩ := hawaits x hx who number .finish ha paused
    exact finishes_of_awaits (hall number hasked) (hwoken who) hawait
  case fails =>
    intro x hx number why he
    obtain ⟨first, second, rfl⟩ := List.append_of_mem hx
    obtain ⟨hopen, possible⟩ := open_at_step run unclosed
    exact failed_of_ends? (tidy_run run.at_step.1 hopen) possible he
  case retries =>
    intro first x middle y rest hs number why he hquiet who next ha
    subst hs
    exact retries_run run unclosed he hquiet ha
  case sends =>
    intro x hx number i hm hi
    have possible := run.step_possible hx
    rw [hm] at possible
    exact sends_move possible hi

end

/-- Two ask for the handshake, which fails; before they hear of it a third asks again and a
fourth joins, and the new exchange succeeds; a fifth asks afterwards. -/
def askingAgain : List Move :=
  [.submit .handshake, .submit .handshake, .submit .handshake, .submit .handshake,
    .submit .handshake, .begin 0, .beginExchange 0, .begin 1,
    .answerExchange 0 (.error (.unreadableAnswer "initialize")), .begin 2, .wake 1, .begin 3,
    .beginExchange 1, .wake 0, .answerExchange 1 (.ok (Wire.ofIntroduced (.object []))),
    .announceExchange 1 true (.error .brokenPipe), .wake 3, .begin 4, .wake 2]

theorem shared_askingAgain :
    ∃ q, (ofSession (.start .standard)).run? 0 askingAgain = some q ∧ q.session.closings = 0 ∧
      Shared 0 (trail 0 (ofSession (.start .standard)) askingAgain) q :=
  ⟨_, rfl, rfl, shared_run (run_trail rfl) rfl⟩

end Pool
end EditorLink
