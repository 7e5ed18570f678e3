import EditorLink.Proofs.Session.Frame
import EditorLink.Proofs.Session.Run

/-!
# Closing a session

Closing is final as long as nothing of the handshake that was under way goes on: a
session stays closed, and its transport is closed once, in exactly those runs in which
no exchange begins and none is announced after the session was closed.
-/
namespace EditorLink

/-- Whether a move makes an exchange begin, or go on after the server was told that the
session starts. -/
def Move.setsPhase : Move → Bool
  | .beginExchange _ | .announceExchange _ _ _ => true
  | _ => false

namespace Session

/-- A session that was closed, and its transport once. -/
structure Shut (s : Session) : Prop where
  phase : s.phase = .closed
  isReady : s.isReady = false
  closings : s.closings = 1

/-- A step that leaves the life of a session alone, but for closing it. -/
def Lives (s s' : Session) : Prop :=
  (s'.phase = s.phase ∧ s'.isReady = s.isReady ∧ s'.closings = s.closings) ∨
    (s.phase ≠ .closed ∧ s'.phase = .closed ∧ s'.isReady = false ∧ s'.closings = s.closings + 1)

theorem Lives.refl (s : Session) : Lives s s := .inl ⟨rfl, rfl, rfl⟩

theorem Lives.trans {s t u : Session} (h : Lives s t) (h' : Lives t u) : Lives s u := by
  obtain ⟨hp, hr, hc⟩ | ⟨hn, hp, hr, hc⟩ := h
  · rwa [Lives, hp, hr, hc] at h'
  · obtain ⟨hp', hr', hc'⟩ | ⟨hn', -⟩ := h'
    · exact .inr ⟨hn, hp'.trans hp, hr'.trans hr, hc'.trans hc⟩
    · exact absurd hp hn'

theorem closings_append (s : Session) (events : List Event)
    (h : ∀ e ∈ events, e.isOutgoing = true) :
    ({ s with trace := s.trace ++ events } : Session).closings = s.closings := by
  unfold closings
  rw [List.countP_append, Nat.add_eq_left, List.countP_eq_zero]
  intro e hm
  have he := h e hm
  cases e <;> simp_all [Event.isOutgoing]

theorem Local.lives {s s' : Session} (h : Local s s') : Lives s s' := by
  obtain ⟨buffers, events, rfl, -, he⟩ := h
  exact .inl ⟨rfl, rfl, s.closings_append events he⟩

theorem lives_close (s : Session) : Lives s s.close := by
  unfold close
  by_cases h : s.phase = .closed
  · rw [if_pos h]
    exact Lives.refl s
  · rw [if_neg h]
    exact .inr ⟨h, rfl, rfl, by simp [closings, record]⟩

theorem lives_attach (s : Session) (place : Nat) : Lives s (s.attach place) := by
  unfold attach
  split
  · exact Lives.refl s
  · exact .inl ⟨rfl, rfl, rfl⟩

theorem lives_detach (s : Session) (place : Nat) : Lives s (s.detach place) := by
  unfold detach
  split
  · exact Lives.refl s
  · dsimp only
    split
    · exact Lives.trans (.inl ⟨rfl, rfl, rfl⟩) (lives_close _)
    · exact .inl ⟨rfl, rfl, rfl⟩

theorem lives_onBuffer (s : Session) (name : String) (act : Nat → Session)
    (h : ∀ place, Lives s (act place)) : Lives s (s.onBuffer name act).1 := by
  unfold onBuffer
  split
  · exact Lives.refl s
  · exact h _

theorem lives_apply (s : Session) (c : Command) : Lives s (s.apply c).1 := by
  cases c with
  | create name uri language options => exact Lives.trans (.inl ⟨rfl, rfl, rfl⟩) (lives_attach _ _)
  | attach name => exact s.lives_onBuffer name _ s.lives_attach
  | detach name => exact s.lives_onBuffer name _ s.lives_detach
  | close => exact s.lives_close
  | listen name acts => exact .inl ⟨rfl, rfl, rfl⟩
  | dispose name =>
    unfold apply dispose
    dsimp only
    split
    · exact Lives.refl s
    · exact .inl ⟨rfl, rfl, rfl⟩
  | publish push => exact Lives.refl s
  | setFeatures name changes =>
    exact s.lives_onBuffer name _ fun place => .inl ⟨rfl, rfl, rfl⟩
  | hideTooltip name =>
    exact s.lives_onBuffer name _ fun place => (s.mild_hideTooltip place).local.lives
  | note what => exact .inl ⟨rfl, rfl, by simp [apply, closings, record]⟩
  | fail why => exact Lives.refl s

theorem lives_commands : CommandInvariant Lives where
  refl := Lives.refl
  trans := Lives.trans
  apply := lives_apply
  showFindings s place push := (s.mild_showFindings place push).local.lives
  heard s name push := .inl ⟨rfl, rfl, by simp [closings, record]⟩

theorem lives_joined (s : Session) : Lives s s.joined.1 := by
  unfold joined
  split
  · exact Lives.refl s
  · exact .inl ⟨rfl, rfl, rfl⟩

theorem lives_handshake (s : Session) (next : AfterHandshake) : Lives s (s.handshake next).1 := by
  unfold handshake
  split
  · exact Lives.refl s
  · dsimp only
    split
    · exact s.lives_joined.trans (local_afterHandshake _ _ _).lives
    · exact s.lives_joined

theorem lives_begin (s : Session) (depth who : Nat) {operation : Operation} {a : Advance}
    (h : s.begin depth who operation = some a) : Lives s a.1 := by
  obtain hl | ⟨command, rfl⟩ | rfl | ⟨name, text, rfl⟩ := s.local_begin depth who h
  · exact hl.lives
  · obtain ⟨b, hb, rfl⟩ := Option.map_eq_some_iff.mp h
    exact lives_commands.perform hb
  · cases h
    exact s.lives_handshake _
  · cases h
    unfold inBuffer
    split
    · exact Lives.refl s
    · exact s.lives_handshake _

theorem closings_exchangeFailed (s : Session) (number : Nat) (why : Failure) :
    (s.exchangeFailed number why).closings = s.closings := by
  unfold exchangeFailed
  dsimp only
  split <;> rfl

theorem phase_exchangeFailed (s : Session) (number : Nat) (why : Failure)
    (h : s.phase ≠ .closed) : (s.exchangeFailed number why).phase ≠ .closed := by
  unfold exchangeFailed
  dsimp only
  split
  · simp
  · exact h

theorem closings_beginExchange (s : Session) (number : Nat) :
    (s.beginExchange number).closings = s.closings := by
  unfold beginExchange
  dsimp only
  split
  · exact closings_exchangeFailed _ _ _
  · exact closings_append _ [.requested _ _] (by simp [Event.isOutgoing])

theorem phase_beginExchange (s : Session) (number : Nat) :
    (s.beginExchange number).phase ≠ .closed := by
  unfold beginExchange
  dsimp only
  split
  · exact phase_exchangeFailed _ _ _ (by simp)
  · simp [record, setExchange]

theorem closings_exchangeAnswered (s : Session) (number : Nat) (answer : Except Failure Value) :
    (s.exchangeAnswered number answer).closings = s.closings := by
  unfold exchangeAnswered
  dsimp only
  split
  · exact s.closings_exchangeFailed _ _
  · split
    · rfl
    · exact closings_append _ [.handed _] (by simp [Event.isOutgoing])

theorem phase_exchangeAnswered (s : Session) (number : Nat) (answer : Except Failure Value)
    (h : s.phase ≠ .closed) : (s.exchangeAnswered number answer).phase ≠ .closed := by
  unfold exchangeAnswered
  dsimp only
  split
  · exact s.phase_exchangeFailed _ _ h
  · rw [if_neg h]
    exact h

/-- An answer to an introduction finds a closed session as it leaves it. -/
theorem lives_exchangeAnswered (s : Session) (number : Nat) (answer : Except Failure Value)
    (h : s.phase = .closed) : Lives s (s.exchangeAnswered number answer) := by
  refine .inl ⟨?_, ?_, s.closings_exchangeAnswered number answer⟩
  all_goals
    unfold exchangeAnswered exchangeFailed
    dsimp only
    split
    · rw [if_neg (by simp [h])]
      rfl
    · rw [if_pos h]
      rfl

theorem closings_deliver (s : Session) (isDelivered : Bool) (notice : Notice) :
    (Pool.deliver s isDelivered notice).closings = s.closings := by
  unfold Pool.deliver
  split
  · simp [closings, record]
  · rfl

theorem lives_deliver (s : Session) (isDelivered : Bool) (notice : Notice) :
    Lives s (Pool.deliver s isDelivered notice) := by
  refine .inl ⟨?_, ?_, s.closings_deliver isDelivered notice⟩ <;> cases isDelivered <;> rfl

/-- What holds of a session that is not closed, or is closed for good. -/
def Sound (s : Session) : Prop := (s.closings = 0 ∧ s.phase ≠ .closed) ∨ s.Shut

theorem Sound.lives {s s' : Session} (h : s.Sound) (hl : Lives s s') : s'.Sound := by
  obtain ⟨hc, hp⟩ | ⟨hp, hr, hc⟩ := h
  · obtain ⟨hp', -, hc'⟩ | ⟨-, hp', hr', hc'⟩ := hl
    · exact .inl ⟨by omega, by rwa [hp']⟩
    · exact .inr ⟨hp', hr', by omega⟩
  · obtain ⟨hp', hr', hc'⟩ | ⟨hn, -⟩ := hl
    · exact .inr ⟨hp'.trans hp, hr'.trans hr, hc'.trans hc⟩
    · exact absurd hp hn

theorem Sound.shut {s : Session} (h : s.Sound) (hc : 0 < s.closings) : s.Shut := by
  obtain ⟨h0, -⟩ | h := h
  · omega
  · exact h

end Session

namespace Pool
open Session
variable {depth : Nat} {p q : Pool}

/-- A move that is not about an exchange does nothing to the life of a session but close it. -/
theorem lives_move {m : Move} (possible : p.move? depth m = some q) :
    Lives p.session q.session ∨ m.setsPhase = true ∨
      ∃ number answer, m = .answerExchange number answer := by
  cases moves_of_possible possible with
  | submit operation => exact .inl (Lives.refl _)
  | begin created begins => exact .inl (p.session.lives_begin depth _ begins)
  | command performs => exact .inl (lives_commands.perform performs)
  | beginExchange | announceExchange => exact .inr (.inl rfl)
  | answerExchange answer requested => exact .inr (.inr ⟨_, answer, rfl⟩)
  | wake paused ended => exact .inl (p.session.local_afterHandshake _ _).lives
  | grant paused holds => exact .inl (p.session.local_turnCame _ _).lives
  | sent isDelivered outcome paused =>
    exact .inl ((p.session.lives_deliver _ _).trans (local_noticeSent _ _ _).lives)
  | answer answer paused => exact .inl (p.session.aside_answered _ _).mild.local.lives

theorem closings_move_of_setsPhase {m : Move} (possible : p.move? depth m = some q)
    (h : m.setsPhase = true) :
    q.session.closings = p.session.closings ∧ q.session.phase ≠ .closed := by
  cases moves_of_possible possible with
  | beginExchange scheduled =>
    exact ⟨p.session.closings_beginExchange _, p.session.phase_beginExchange _⟩
  | announceExchange isDelivered outcome announcing =>
    refine ⟨p.session.closings_deliver isDelivered .initialized, ?_⟩
    simp [exchangeAnnounced, setExchange]
  | _ => cases h

/-- A move keeps a session sound, unless it is about an exchange after the session was
closed. -/
theorem sound_move {m : Move} (possible : p.move? depth m = some q) (hs : p.session.Sound)
    (h : 0 < p.session.closings → m.setsPhase = false) : q.session.Sound := by
  obtain hl | hm | ⟨number, answer, rfl⟩ := lives_move possible
  · exact hs.lives hl
  · -- before the session is closed an exchange may set the phase, since that never closes it
    obtain ⟨hc, hp⟩ := closings_move_of_setsPhase possible hm
    by_cases h0 : 0 < p.session.closings
    · simp [h h0] at hm
    · exact .inl ⟨by omega, hp⟩
  · cases moves_of_possible possible
    obtain ⟨hc, hp⟩ | hs := hs
    · exact .inl ⟨by rw [closings_exchangeAnswered, hc], p.session.phase_exchangeAnswered _ _ hp⟩
    · exact Sound.lives (.inr hs) (p.session.lives_exchangeAnswered _ _ hs.phase)

theorem closings_le_move {m : Move} (possible : p.move? depth m = some q) :
    p.session.closings ≤ q.session.closings := by
  obtain (⟨-, -, hc⟩ | ⟨-, -, -, hc⟩) | hset | ⟨number, answer, rfl⟩ := lives_move possible
  · omega
  · omega
  · have hc := (closings_move_of_setsPhase possible hset).1
    omega
  · cases moves_of_possible possible
    exact Nat.le_of_eq (closings_exchangeAnswered _ _ _).symm

theorem closings_le_run {steps : List Step} (run : Run depth p steps q) :
    p.session.closings ≤ q.session.closings := by
  induction run with
  | start => exact Nat.le_refl _
  | next run possible ih => exact Nat.le_trans ih (closings_le_move possible)

/-- A session whose transport was not closed is not closed. -/
theorem phase_ne_closed {settings : Settings} {steps : List Step}
    (run : Run depth (ofSession (.start settings)) steps q) (unclosed : q.session.closings = 0) :
    q.session.phase ≠ .closed := by
  induction run with
  | start => simp [ofSession, Session.start]
  | @next steps p q m run possible ih =>
    have hp : p.session.closings = 0 := by
      have hle := closings_le_move possible
      omega
    have hsound : p.session.Sound := .inl ⟨hp, ih hp⟩
    obtain ⟨-, hq⟩ | hshut := sound_move possible hsound (by omega)
    · exact hq
    · have hone := hshut.closings
      omega

theorem isReady_beginExchange (s : Session) (number : Nat) :
    (s.beginExchange number).isReady = s.isReady := by
  unfold beginExchange exchangeFailed
  dsimp only
  split
  · split <;> rfl
  · rfl

theorem isReady_exchangeAnswered (s : Session) (number : Nat) (answer : Except Failure Value) :
    (s.exchangeAnswered number answer).isReady = s.isReady := by
  unfold exchangeAnswered exchangeFailed
  dsimp only
  split
  · split <;> rfl
  · split <;> rfl

/-- A session that is ready stays so as long as it is not closed. -/
theorem isReady_move {m : Move} (possible : p.move? depth m = some q)
    (h : p.session.isReady = true) (hq : q.session.phase ≠ .closed) : q.session.isReady = true := by
  obtain (⟨-, hr, -⟩ | ⟨-, hc, -⟩) | hm | ⟨number, answer, rfl⟩ := lives_move possible
  · rw [hr, h]
  · exact absurd hc hq
  · cases moves_of_possible possible with
    | beginExchange scheduled => exact (isReady_beginExchange _ _).trans h
    | announceExchange => rfl
    | _ => cases hm
  · cases moves_of_possible possible
    exact (isReady_exchangeAnswered _ _ _).trans h

/-- A session that was closed stays closed, is never ready again and closes its transport
once, in exactly those runs in which no exchange begins and none is announced after
the session was closed. -/
theorem shut_after_closing_iff {settings : Settings} {steps : List Step}
    (run : Run depth (.ofSession (.start settings)) steps q) :
    (∀ x ∈ steps, 0 < x.after.session.closings → x.after.session.Shut) ↔
      ∀ x ∈ steps, 0 < x.before.session.closings → x.move.setsPhase = false := by
  constructor
  · intro h x hx hc
    by_contra hm
    rw [Bool.not_eq_false] at hm
    obtain ⟨hc', hp⟩ := closings_move_of_setsPhase (run.step_possible hx) hm
    exact hp (h x hx (by omega)).phase
  · intro h x hx hc
    have hstep : ∀ y ∈ steps, y.before.session.Sound → y.after.session.Sound := fun y hy hs =>
      sound_move (run.step_possible hy) hs (h y hy)
    have hstart : (ofSession (Session.start settings)).session.Sound :=
      .inl ⟨rfl, by simp [ofSession, Session.start]⟩
    have hx' := run.invariant_before (P := fun p => p.session.Sound) hstart hstep hx
    exact (hstep x hx hx').shut hc

/-- A session is closed while the server is asked, and the answer comes afterwards. -/
def closingWhileAsking : List Move :=
  [.submit .handshake, .begin 0, .beginExchange 0, .command .close,
    .answerExchange 0 (.ok (Wire.ofIntroduced (.object []))), .wake 0, .submit .handshake, .begin 1]

theorem shut_after_closing_while_asking :
    ((ofSession (.start .standard)).run? 0 closingWhileAsking).isSome = true ∧
      ∀ x ∈ trail 0 (ofSession (.start .standard)) closingWhileAsking,
        0 < x.after.session.closings → x.after.session.Shut :=
  ⟨rfl, (shut_after_closing_iff (run_trail rfl)).mpr (by decide)⟩

/-- A session is closed while the server is told that it starts. -/
def closingWhileAnnouncing : List Move :=
  [.submit .handshake, .begin 0, .beginExchange 0,
    .answerExchange 0 (.ok (Wire.ofIntroduced (.object []))), .command .close,
    .announceExchange 0 true (.ok ())]

/-- The notice that the session starts makes a closed session ready again. -/
theorem ready_after_closing_while_announcing :
    ((ofSession (.start .standard)).run? 0 closingWhileAnnouncing).map
      (fun p => (p.session.closings, p.session.phase, p.session.isReady)) =
        some (1, .ready, true) ∧
      ¬ ∀ x ∈ trail 0 (ofSession (.start .standard)) closingWhileAnnouncing,
        0 < x.after.session.closings → x.after.session.Shut := by
  refine ⟨rfl, fun h => ?_⟩
  have hs := h _ (List.getLast_mem (by decide)) (by decide)
  exact absurd hs.phase (by decide)

end Pool
end EditorLink
