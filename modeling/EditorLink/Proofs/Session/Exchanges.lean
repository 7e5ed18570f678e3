import EditorLink.Proofs.Session.Closing
import EditorLink.Proofs.Session.Messages

/-!
# The exchanges of a handshake

Whoever asks for the handshake joins the exchange that goes on, and a new one is asked for
only when the last has failed. So all exchanges but one have failed, one introduction at
most is under way, and one at most is ever answered. That one tells the server that the
session starts, and only then the session turns ready, once in its life, with what this
server can do.
-/
namespace EditorLink

namespace Exchange

/-- The server was asked and has not answered. -/
def isAsking : Exchange → Bool
  | requested => true
  | _ => false

/-- The server has answered. -/
def isAnswered : Exchange → Bool
  | announcing | succeeded => true
  | _ => false

def isFailed : Exchange → Bool
  | failed _ => true
  | _ => false

def isSucceeded : Exchange → Bool
  | succeeded => true
  | _ => false

/-- It is not only asked for. -/
def isBegun : Exchange → Bool
  | scheduled => false
  | _ => true

end Exchange

/-- The exchange that a move is about. -/
def Move.exchange? : Move → Option Nat
  | .beginExchange number | .answerExchange number _ | .announceExchange number _ _ => some number
  | _ => none

/-- Whether a move makes an exchange begin. -/
def Move.begins : Move → Bool
  | .beginExchange _ => true
  | _ => false

/-- Whether an introduction comes back with a move. -/
def Move.concludes : Move → Bool
  | .answerExchange _ _ => true
  | _ => false

/-- What the server says that it can do, if an answer to an introduction can be read. -/
def introduced? : Except Failure Value → Option ServerCapabilities
  | .ok v => Wire.introduced? v
  | .error _ => none

namespace Session

/-- How many introductions were handed to the transport. -/
def introductions (s : Session) : Nat := s.messages.countP Event.isIntroduction

/-- How often the notice that the session starts was handed to the transport. -/
def announcements (s : Session) : Nat := s.messages.countP Event.isAnnouncement

/-- How many introductions the server has not answered. -/
def asking (s : Session) : Nat := s.exchanges.countP Exchange.isAsking

/-- A step that leaves the handshake alone, but may close the session. -/
structure Rests (s t : Session) : Prop where
  exchanges : t.exchanges = s.exchanges
  current : t.current = s.current
  capabilities : t.capabilities = s.capabilities
  introductions : t.introductions = s.introductions
  announcements : t.announcements = s.announcements
  lives : Lives s t

theorem Rests.refl (s : Session) : Rests s s := ⟨rfl, rfl, rfl, rfl, rfl, Lives.refl s⟩

theorem Rests.trans {s t u : Session} (h : Rests s t) (h' : Rests t u) : Rests s u where
  exchanges := h'.exchanges.trans h.exchanges
  current := h'.current.trans h.current
  capabilities := h'.capabilities.trans h.capabilities
  introductions := h'.introductions.trans h.introductions
  announcements := h'.announcements.trans h.announcements
  lives := h.lives.trans h'.lives

theorem Lives.isReady {s t : Session} (h : Lives s t) (ht : t.isReady = true) : s.isReady = true := by
  obtain ⟨-, hr, -⟩ | ⟨-, -, hr, -⟩ := h
  · rwa [← hr]
  · rw [hr] at ht
    cases ht

theorem Rests.of_messages {s t : Session} (he : t.exchanges = s.exchanges)
    (hc : t.current = s.current) (hk : t.capabilities = s.capabilities)
    (hm : t.messages = s.messages) (hl : Lives s t) : Rests s t :=
  ⟨he, hc, hk, congrArg (List.countP Event.isIntroduction) hm,
    congrArg (List.countP Event.isAnnouncement) hm, hl⟩

/-- What operations send is no part of the handshake. -/
theorem Local.rests {P : Prop} {s : Session} {a : Advance} (hl : Local s a.1) (hs : Speaks P s a) :
    Rests s a.1 := by
  have hcount (f : Event → Bool) (hf : ∀ e, e.isHandshake = false → f e = false) :
      a.1.messages.countP f = s.messages.countP f := by
    rw [hs.messages, List.countP_append, Nat.add_eq_left, List.countP_eq_zero]
    intro e he
    rw [Option.mem_toList] at he
    simp [hf e (hs.allowed e he).1]
  have hlives := hl.lives
  obtain ⟨buffers, events, h, -, -⟩ := hl
  refine ⟨by rw [h], by rw [h], by rw [h], hcount _ fun e he => ?_, hcount _ fun e he => ?_, hlives⟩
  · exact (Bool.or_eq_false_iff.mp he).1
  · exact (Bool.or_eq_false_iff.mp he).2

/-- The fields of a session that only the handshake changes. -/
def HandshakeKept (s t : Session) : Prop :=
  t.exchanges = s.exchanges ∧ t.current = s.current ∧ t.capabilities = s.capabilities

theorem handshakeKept_apply (s : Session) (c : Command) : HandshakeKept s (s.apply c).1 := by
  have hclose (t : Session) : HandshakeKept t t.close := by
    unfold close
    split <;> exact ⟨rfl, rfl, rfl⟩
  have hon (name : String) (act : Nat → Session) (h : ∀ place, HandshakeKept s (act place)) :
      HandshakeKept s (s.onBuffer name act).1 := by
    unfold onBuffer
    split
    · exact ⟨rfl, rfl, rfl⟩
    · exact h _
  have hattach (t : Session) (place : Nat) : HandshakeKept t (t.attach place) := by
    unfold attach
    split <;> exact ⟨rfl, rfl, rfl⟩
  cases c with
  | create name uri language options => exact hattach _ _
  | attach name => exact hon name _ (hattach s)
  | detach name =>
    refine hon name _ fun place => ?_
    unfold detach
    split
    · exact ⟨rfl, rfl, rfl⟩
    · dsimp only
      split
      · exact hclose _
      · exact ⟨rfl, rfl, rfl⟩
  | close => exact hclose s
  | dispose name =>
    unfold apply dispose
    dsimp only
    split <;> exact ⟨rfl, rfl, rfl⟩
  | setFeatures name changes => exact hon name _ fun _ => ⟨rfl, rfl, rfl⟩
  | hideTooltip name => exact hon name _ fun _ => ⟨rfl, rfl, rfl⟩
  | listen | publish | note | fail => exact ⟨rfl, rfl, rfl⟩

theorem rests_commands : CommandInvariant Rests where
  refl := Rests.refl
  trans := Rests.trans
  apply s c :=
    have h := s.handshakeKept_apply c
    .of_messages h.1 h.2.1 h.2.2 (s.messages_apply c) (s.lives_apply c)
  showFindings s place push := by
    have hl := (s.mild_showFindings place push).local
    have hm := s.messages_showFindings place push
    exact hl.rests (a := (_, .finished (.ok .done))) (speaks_finished (P := True) hm)
  heard s name push :=
    .of_messages rfl rfl rfl (s.messages_record rfl) (.inl ⟨rfl, rfl, by simp [closings, record]⟩)

/-- A session in which a new exchange was asked for. -/
def scheduled (s : Session) : Session :=
  { s with exchanges := s.exchanges ++ [.scheduled], current := some s.exchanges.length }

/-- Asking for the handshake asks for a new exchange only if there is none to join. -/
theorem rests_handshake (s : Session) (next : AfterHandshake) :
    Rests s (s.handshake next).1 ∨ (s.current = none ∧ Rests s.scheduled (s.handshake next).1) := by
  unfold handshake
  split
  · exact .inl (Rests.refl s)
  · cases hc : s.current with
    | some number =>
      have hj : s.joined = (s, number) := by simp only [joined, hc]
      rw [hj]
      dsimp only
      split
      · exact .inl ((s.local_afterHandshake _ _).rests (s.speaks_afterHandshake next _))
      · exact .inl (Rests.refl s)
    | none =>
      have hj : s.joined = (s.scheduled, s.exchanges.length) := by simp only [joined, hc]; rfl
      rw [hj]
      have hout : (s.scheduled.exchanges[s.exchanges.length]?).bind Exchange.outcome? = none := by
        simp [scheduled, Exchange.outcome?]
      dsimp only
      rw [hout]
      exact .inr ⟨rfl, Rests.refl _⟩

theorem rests_begin (s : Session) (depth who : Nat) {operation : Operation} {a : Advance}
    (h : s.begin depth who operation = some a) :
    Rests s a.1 ∨ (s.current = none ∧ Rests s.scheduled a.1) := by
  obtain hl | ⟨command, rfl⟩ | rfl | ⟨name, text, rfl⟩ := s.local_begin depth who h
  · exact .inl (hl.rests (s.speaks_begin depth who h))
  · obtain ⟨b, hb, rfl⟩ := Option.map_eq_some_iff.mp h
    exact .inl (rests_commands.perform hb)
  · cases h
    exact s.rests_handshake _
  · cases h
    unfold inBuffer
    split
    · exact .inl (Rests.refl s)
    · exact s.rests_handshake _

theorem rests_deliver (s : Session) (isDelivered : Bool) (notice : Notice) :
    Rests s (Pool.deliver s isDelivered notice) := by
  refine .of_messages ?_ ?_ ?_ ?_ (s.lives_deliver isDelivered notice)
  all_goals cases isDelivered
  all_goals first | rfl | exact s.messages_record rfl

theorem messages_exchangeFailed (s : Session) (number : Nat) (why : Failure) :
    (s.exchangeFailed number why).messages = s.messages := by
  unfold exchangeFailed
  dsimp only
  split <;> rfl

theorem isReady_exchangeFailed (s : Session) (number : Nat) (why : Failure) :
    (s.exchangeFailed number why).isReady = s.isReady := by
  unfold exchangeFailed
  dsimp only
  split <;> rfl

theorem capabilities_exchangeFailed (s : Session) (number : Nat) (why : Failure) :
    (s.exchangeFailed number why).capabilities = s.capabilities := by
  unfold exchangeFailed
  dsimp only
  split <;> rfl

theorem exchanges_exchangeFailed (s : Session) (number : Nat) (why : Failure) :
    (s.exchangeFailed number why).exchanges = s.exchanges.set number (.failed why) := by
  unfold exchangeFailed
  dsimp only
  split <;> rfl

/-- A new exchange begins: the server is asked, or the introduction cannot be made. -/
theorem beginExchange_cases (s : Session) (number : Nat) :
    (∃ why, s.settings.introduction number = .error why ∧ s.beginExchange number = { s with
      exchanges := s.exchanges.set number (.failed why), phase := .uninitialized, current := none }) ∨
    ∃ i, s.settings.introduction number = .ok i ∧ s.beginExchange number = { s with
      exchanges := s.exchanges.set number .requested, phase := .initializing
      trace := s.trace ++
        [.requested (.introduce i) (s.settings.seconds * Settings.handshakeFactor)] } := by
  unfold beginExchange
  dsimp only
  split
  · exact .inl ⟨_, ‹_›, rfl⟩
  · exact .inr ⟨_, ‹_›, rfl⟩

/-- An introduction comes back: it has failed, or has come too late, or the server is told
that the session starts. -/
theorem exchangeAnswered_cases (s : Session) (number : Nat) (answer : Except Failure Value) :
    (introduced? answer = none ∧
      ∃ why, s.exchangeAnswered number answer = s.exchangeFailed number why) ∨
    ∃ c, introduced? answer = some c ∧
      (s.phase = .closed ∧ s.exchangeAnswered number answer = s.setExchange number .succeeded ∨
        s.phase ≠ .closed ∧ s.exchangeAnswered number answer =
          ({ s with capabilities := some c }.setExchange number .announcing).record
            (.handed .initialized)) := by
  cases answer with
  | error why => exact .inl ⟨rfl, why, rfl⟩
  | ok v =>
    have hi : introduced? (.ok v) = Wire.introduced? v := rfl
    cases hv : Wire.introduced? v with
    | none =>
      refine .inl ⟨hi.trans hv, .unreadableAnswer RequestMethod.introduce.name, ?_⟩
      simp only [exchangeAnswered, Except.bind, hv]
    | some c =>
      refine .inr ⟨c, hi.trans hv, ?_⟩
      by_cases hc : s.phase = .closed
      · exact .inl ⟨hc, by simp only [exchangeAnswered, Except.bind, hv, if_pos hc]⟩
      · exact .inr ⟨hc, by simp only [exchangeAnswered, Except.bind, hv, if_neg hc]⟩

end Session

namespace Pool
open Session

/-- What a move does to the handshake of a session. -/
inductive Shakes (s : Session) : Move → Session → Prop where
  | rests {m : Move} {t : Session} (other : m.exchange? = none) (rests : Rests s t) : Shakes s m t
  | schedules {m : Move} {t : Session} (other : m.exchange? = none) (free : s.current = none)
    (rests : Rests s.scheduled t) : Shakes s m t
  | gives {number : Nat} {why : Failure} (scheduled : s.exchanges[number]? = some .scheduled)
    (unmade : s.settings.introduction number = .error why) :
    Shakes s (.beginExchange number) { s with
      exchanges := s.exchanges.set number (.failed why), phase := .uninitialized, current := none }
  | asks {number : Nat} {i : Introduction} {seconds : Double}
    (scheduled : s.exchanges[number]? = some .scheduled)
    (made : s.settings.introduction number = .ok i) :
    Shakes s (.beginExchange number) { s with
      exchanges := s.exchanges.set number .requested, phase := .initializing
      trace := s.trace ++ [.requested (.introduce i) seconds] }
  | fails {number : Nat} {answer : Except Failure Value} {why : Failure}
    (requested : s.exchanges[number]? = some .requested) (unread : introduced? answer = none) :
    Shakes s (.answerExchange number answer) (s.exchangeFailed number why)
  | comesLate {number : Nat} {answer : Except Failure Value} {c : ServerCapabilities}
    (requested : s.exchanges[number]? = some .requested) (read : introduced? answer = some c)
    (closed : s.phase = .closed) :
    Shakes s (.answerExchange number answer) (s.setExchange number .succeeded)
  | answers {number : Nat} {answer : Except Failure Value} {c : ServerCapabilities}
    (requested : s.exchanges[number]? = some .requested) (read : introduced? answer = some c)
    (unclosed : s.phase ≠ .closed) :
    Shakes s (.answerExchange number answer)
      (({ s with capabilities := some c }.setExchange number .announcing).record
        (.handed .initialized))
  | announces {number : Nat} {isDelivered : Bool} {outcome : Except Failure Unit}
    (announcing : s.exchanges[number]? = some .announcing) :
    Shakes s (.announceExchange number isDelivered outcome)
      ((deliver s isDelivered .initialized).exchangeAnnounced number)

theorem shakes_move {depth : Nat} {p q : Pool} {m : Move} (possible : p.move? depth m = some q) :
    Shakes p.session m q.session := by
  cases moves_of_possible possible with
  | submit operation => exact .rests rfl (Rests.refl _)
  | begin created begins =>
    obtain hr | ⟨hc, hr⟩ := p.session.rests_begin depth _ begins
    · exact .rests rfl hr
    · exact .schedules rfl hc hr
  | command performs => exact .rests rfl (rests_commands.perform performs)
  | @beginExchange number scheduled =>
    dsimp only
    obtain ⟨why, hw, h⟩ | ⟨i, hi, h⟩ := p.session.beginExchange_cases number <;> rw [h]
    · exact .gives scheduled hw
    · exact .asks scheduled hi
  | @answerExchange number answer requested =>
    dsimp only
    obtain ⟨hi, why, h⟩ | ⟨c, hi, ⟨hc, h⟩ | ⟨hc, h⟩⟩ :=
      p.session.exchangeAnswered_cases number answer <;> rw [h]
    · exact .fails requested hi
    · exact .comesLate requested hi hc
    · exact .answers requested hi hc
  | announceExchange isDelivered outcome announcing => exact .announces announcing
  | wake paused ended =>
    exact .rests rfl ((p.session.local_afterHandshake _ _).rests (speaks_afterHandshake _ _ _))
  | grant paused holds =>
    exact .rests rfl ((p.session.local_turnCame _ _).rests (speaks_turnCame _ _ _))
  | sent isDelivered outcome paused =>
    exact .rests rfl ((p.session.rests_deliver _ _).trans
      ((local_noticeSent _ _ _).rests (speaks_noticeSent _ _ _)))
  | answer answer paused =>
    exact .rests rfl ((p.session.aside_answered _ _).mild.local.rests (speaks_answered _ _ _))

end Pool

/-! ## One exchange at a time -/

namespace Session

/-- All exchanges have failed but the one that callers join, and that has succeeded if the
session is ready. -/
structure Single (s : Session) : Prop where
  others : ∀ k e, s.exchanges[k]? = some e → s.current ≠ some k → e.isFailed = true
  ready_iff : s.isReady = true ↔ s.phase = .ready
  succeeded : s.isReady = true → ∃ k, s.current = some k ∧ s.exchanges[k]? = some .succeeded

/-- Replacing an element moves one of the count. -/
theorem countP_set_add {α : Type} {l : List α} {i : Nat} {a : α} (h : l[i]? = some a) (b : α)
    (f : α → Bool) : (l.set i b).countP f + (f a).toNat = l.countP f + (f b).toNat := by
  induction l generalizing i with
  | nil => cases h
  | cons c rest ih =>
    cases i with
    | zero =>
      cases h
      rw [List.set_cons_zero, List.countP_cons, List.countP_cons]
      cases f a <;> cases f b <;> simp
    | succ i =>
      have hi := ih (i := i) (by simpa using h)
      rw [List.set_cons_succ, List.countP_cons, List.countP_cons]
      omega

/-- Where all elements but one fail a test, one at most passes it. -/
theorem countP_le_one_of_ne {α : Type} {l : List α} {f : α → Bool} {place : Option Nat}
    (h : ∀ k a, l[k]? = some a → place ≠ some k → f a = false) : l.countP f ≤ 1 := by
  induction l generalizing place with
  | nil => exact Nat.zero_le 1
  | cons a rest ih =>
    rw [List.countP_cons]
    by_cases hp : place = some 0
    · have hrest : rest.countP f = 0 := by
        rw [List.countP_eq_zero]
        intro b hb
        obtain ⟨k, hk⟩ := List.mem_iff_getElem?.mp hb
        simp [h (k + 1) b (by simpa using hk) (by simp [hp])]
      rw [hrest, Nat.zero_add]
      split <;> omega
    · rw [h 0 a rfl hp]
      refine @ih (place.map (· - 1)) fun k b hb hk => ?_
      refine h (k + 1) b (by simpa using hb) ?_
      rintro rfl
      exact hk rfl

section
variable {s t : Session} {number : Nat} {e : Exchange}

theorem Single.current_eq (h : s.Single) (he : s.exchanges[number]? = some e)
    (hf : e.isFailed = false) : s.current = some number := by
  by_contra hc
  simp [h.others number e he hc] at hf

theorem Single.isReady_eq_false (h : s.Single) (he : s.exchanges[number]? = some e)
    (hf : e.isFailed = false) (hs : e ≠ .succeeded) : s.isReady = false := by
  rw [← Bool.not_eq_true]
  intro hr
  obtain ⟨k, hc, hk⟩ := h.succeeded hr
  rw [h.current_eq he hf, Option.some.injEq] at hc
  subst hc
  rw [he, Option.some.injEq] at hk
  exact hs hk

/-- Among the exchanges that have not failed there is one at most. -/
theorem Single.countP_le_one (h : s.Single) (f : Exchange → Bool)
    (hf : ∀ e, e.isFailed = true → f e = false) : s.exchanges.countP f ≤ 1 :=
  countP_le_one_of_ne fun k e he hk => hf e (h.others k e he hk)

theorem Single.others_set (h : s.Single) (he : s.exchanges[number]? = some e)
    (hf : e.isFailed = false) (later : Exchange) (k : Nat) (e' : Exchange)
    (hk : (s.exchanges.set number later)[k]? = some e') (hc : s.current ≠ some k) :
    e'.isFailed = true := by
  have hne : number ≠ k := by
    rintro rfl
    exact hc (h.current_eq he hf)
  rw [List.getElem?_set_ne hne] at hk
  exact h.others k e' hk hc

theorem Single.others_fail (h : s.Single) (he : s.exchanges[number]? = some e)
    (hf : e.isFailed = false) (why : Failure) (k : Nat) (e' : Exchange)
    (hk : (s.exchanges.set number (.failed why))[k]? = some e') : e'.isFailed = true := by
  by_cases hn : number = k
  · subst hn
    rw [List.getElem?_set_self (List.getElem?_eq_some_iff.mp he).1] at hk
    cases hk
    rfl
  · refine h.others_set he hf _ k e' hk ?_
    rw [h.current_eq he hf]
    simpa using hn

theorem Single.rests (h : s.Single) (hr : Rests s t) : t.Single where
  others := by
    rw [hr.exchanges, hr.current]
    exact h.others
  ready_iff := by
    obtain ⟨hp, hi, -⟩ | ⟨-, hp, hi, -⟩ := hr.lives
    · rw [hp, hi]
      exact h.ready_iff
    · simp [hp, hi]
  succeeded hi := by
    rw [hr.exchanges, hr.current]
    exact h.succeeded (hr.lives.isReady hi)

theorem Single.scheduled (h : s.Single) (hc : s.current = none) : s.scheduled.Single where
  others k e he hk := by
    have hne : k ≠ s.exchanges.length := by
      rintro rfl
      exact hk rfl
    have hlt : k < s.exchanges.length := by
      have := (List.getElem?_eq_some_iff.mp he).1
      simp [Session.scheduled] at this
      omega
    rw [Session.scheduled, List.getElem?_append_left hlt] at he
    exact h.others k e he (by simp [hc])
  ready_iff := h.ready_iff
  succeeded hi := by
    obtain ⟨k, hk, -⟩ := h.succeeded hi
    rw [hc] at hk
    cases hk

end
end Session

namespace Pool
open Session

theorem single_start (settings : Settings) : (Session.start settings).Single where
  others k e he := by simp [Session.start] at he
  ready_iff := by simp [Session.start]
  succeeded h := by cases h

/-- Every move leaves one exchange at most that has not failed. -/
theorem Shakes.single {s t : Session} {m : Move} (h : s.Single) (hs : Shakes s m t) : t.Single := by
  cases hs with
  | rests other rests => exact h.rests rests
  | schedules other free rests => exact (h.scheduled free).rests rests
  | gives scheduled unmade =>
    have hr := h.isReady_eq_false scheduled rfl nofun
    exact ⟨fun k e he _ => h.others_fail scheduled rfl _ k e he, by simp [hr], by simp [hr]⟩
  | asks scheduled made =>
    have hr := h.isReady_eq_false scheduled rfl nofun
    exact ⟨h.others_set scheduled rfl _, by simp [hr], by simp [hr]⟩
  | @fails number answer why requested unread =>
    have hr := h.isReady_eq_false requested rfl nofun
    have hp : s.phase ≠ .ready := fun hp => by simp [h.ready_iff.mpr hp] at hr
    unfold exchangeFailed
    dsimp only
    split
    · exact ⟨fun k e he _ => h.others_fail requested rfl _ k e he, by simp [setExchange, hr],
        by simp [setExchange, hr]⟩
    · exact ⟨h.others_set requested rfl _, by simp [setExchange, hr, hp],
        by simp [setExchange, hr]⟩
  | comesLate requested read closed =>
    have hr := h.isReady_eq_false requested rfl nofun
    exact ⟨h.others_set requested rfl _, h.ready_iff, by simp [setExchange, hr]⟩
  | answers requested read unclosed =>
    have hr := h.isReady_eq_false requested rfl nofun
    exact ⟨h.others_set requested rfl _, h.ready_iff, by simp [setExchange, record, hr]⟩
  | @announces number isDelivered outcome announcing =>
    have hd := s.rests_deliver isDelivered .initialized
    have hn := h.rests hd
    rw [← hd.exchanges] at announcing
    have hlt := (List.getElem?_eq_some_iff.mp announcing).1
    refine ⟨hn.others_set announcing rfl _, by simp [exchangeAnnounced, setExchange], fun _ => ?_⟩
    exact ⟨number, hn.current_eq announcing rfl, by simp [exchangeAnnounced, setExchange, hlt]⟩

end Pool

end EditorLink
