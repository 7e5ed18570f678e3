import EditorLink.Proofs.Session.Attendance

/-!
# Closing with the last buffer

A session is closed by word, or it closes itself with the last buffer that is detached. The
history of a session tells when that is: a buffer that is not attached cannot be the last one,
and a session that was closed is not closed once more, whoever comes and goes afterwards. This
holds as long as no handshake is in progress when the session is closed.
-/
namespace EditorLink

/-- Whether an exchange has come to its end. -/
def Exchange.isOver (e : Exchange) : Bool := e.outcome?.isSome

namespace Happening

/-- A command detaches a buffer that is attached, and leaves none that is. -/
def Deserts (past : List Session.Entry) (x : Session.Entry) : Prop :=
  ∃ place, x.attaches? place = some false ∧ attends past (.buffer place) = true ∧
    ∀ other, attends (past ++ [x]) (.buffer other) = false

/-- A command closes a session that may close itself. -/
inductive Closes (closesItself : Bool) (past : List Session.Entry) : Session.Entry → Prop where
  | asked {s : Session} : Closes closesItself past (.did s .close)
  | deserted {x : Session.Entry} (itself : closesItself = true) (deserts : x.Deserts past) :
    Closes closesItself past x

/-- Only a command that detaches a buffer detaches one. -/
theorem exists_detach_of_attaches? {place : Nat} {x : Session.Entry}
    (h : x.attaches? place = some false) :
    ∃ s name, x = .did s (.detach name) ∧ s.find? name = some place := by
  cases x with
  | did s c =>
    cases c with
    | detach name =>
      refine ⟨s, name, rfl, ?_⟩
      by_contra hn
      simp [attaches?, hn] at h
    | create | attach =>
      simp only [attaches?] at h
      split at h <;> cases h
    | _ => cases h
  | _ => cases h

end Happening

/-- The history of a session that may close itself has closed it. -/
def WasClosed (closesItself : Bool) (history : List Session.Entry) : Prop :=
  ∃ first x, first ++ [x] <+: history ∧ x.Closes closesItself first

namespace Session

/-- No handshake is in progress. -/
def AtRest (s : Session) : Prop := ∀ e ∈ s.exchanges, e.isOver = true

instance (s : Session) : Decidable s.AtRest :=
  inferInstanceAs (Decidable (∀ e ∈ s.exchanges, e.isOver = true))

/-- The transport of a session was closed once, and the session is closed and not ready, if
that is what its history says; otherwise neither. -/
structure ClosedBy (closesItself : Bool) (history : List Entry) (s : Session) : Prop where
  shut : WasClosed closesItself history → s.Shut
  unclosed : ¬ WasClosed closesItself history → s.closings = 0 ∧ s.phase ≠ .closed

/-- Nothing has closed a session, or made it ready. -/
structure Steady (s t : Session) : Prop where
  settings : t.settings = s.settings
  phase : t.phase = s.phase
  isReady : t.isReady = s.isReady
  closings : t.closings = s.closings

section
variable {s t : Session} {closesItself : Bool} {history : List Entry} {x : Entry}

theorem wasClosed_concat :
    WasClosed closesItself (history ++ [x]) ↔
      WasClosed closesItself history ∨ x.Closes closesItself history := by
  constructor
  · rintro ⟨first, y, hp, hy⟩
    obtain heq | hp := List.prefix_concat_iff.mp hp
    · obtain ⟨rfl, hx⟩ := List.append_inj' heq rfl
      cases hx
      exact .inr hy
    · exact .inl ⟨first, y, hp, hy⟩
  · rintro (⟨first, y, hp, hy⟩ | hx)
    · exact ⟨first, y, hp.trans (List.prefix_append _ _), hy⟩
    · exact ⟨history, x, List.prefix_refl _, hx⟩

/-! ## What leaves the life of a session alone -/

theorem Steady.refl (s : Session) : Steady s s := ⟨rfl, rfl, rfl, rfl⟩

theorem Steady.trans {u : Session} (h : Steady s t) (h' : Steady t u) : Steady s u :=
  ⟨h'.settings.trans h.settings, h'.phase.trans h.phase, h'.isReady.trans h.isReady,
    h'.closings.trans h.closings⟩

theorem Steady.shut (h : Steady s t) (hs : s.Shut) : t.Shut :=
  ⟨h.phase.trans hs.phase, h.isReady.trans hs.isReady, h.closings.trans hs.closings⟩

theorem Local.steady (h : Local s t) : Steady s t := by
  obtain ⟨buffers, events, rfl, -, he⟩ := h
  exact ⟨rfl, rfl, rfl, s.closings_append events he⟩

theorem Local.exchanges (h : Local s t) : t.exchanges = s.exchanges := by
  obtain ⟨buffers, events, rfl, -, -⟩ := h
  rfl

theorem steady_attach (s : Session) (place : Nat) : Steady s (s.attach place) := by
  unfold attach
  split <;> exact ⟨rfl, rfl, rfl, rfl⟩

/-- A buffer that is detached leaves the life of a session alone, unless it was the last one. -/
theorem steady_detach (s : Session) (place : Nat)
    (h : ∀ token, s.token? place = some token → s.attached.filter (·.1 ≠ place) = [] →
      s.settings.closesItself = false) : Steady s (s.detach place) := by
  unfold detach
  split
  · exact Steady.refl s
  · rename_i token hl
    dsimp only
    split
    · rename_i hcloses
      obtain ⟨hitself, hnil⟩ := Bool.and_eq_true_iff.mp hcloses
      have hstays := h token hl (List.isEmpty_iff.mp hnil)
      rw [hitself] at hstays
      cases hstays
    · exact ⟨rfl, rfl, rfl, rfl⟩

theorem steady_heard (s : Session) (name : String) (push : Push) :
    Steady s (s.record (.heard name push)) :=
  ⟨rfl, rfl, rfl, by simp [closings, record]⟩

theorem steady_onBuffer (name : String) {act : Nat → Session}
    (h : ∀ place, Steady s (act place)) : Steady s (s.onBuffer name act).1 := by
  unfold onBuffer
  split
  · exact Steady.refl s
  · exact h _

/-- Commands that neither close a session nor detach a buffer leave its life alone. -/
theorem steady_apply (s : Session) {c : Command} (hclose : c ≠ .close)
    (hdetach : ∀ name, c ≠ .detach name) : Steady s (s.apply c).1 := by
  cases c with
  | close => exact absurd rfl hclose
  | detach name => exact absurd rfl (hdetach name)
  | create name uri language options =>
    exact Steady.trans (t := { s with buffers := s.buffers ++ [.fresh name uri language options] })
      ⟨rfl, rfl, rfl, rfl⟩ (steady_attach _ _)
  | attach name => exact steady_onBuffer name s.steady_attach
  | dispose name =>
    simp only [apply, dispose]
    split <;> exact ⟨rfl, rfl, rfl, rfl⟩
  | setFeatures name changes => exact steady_onBuffer name fun _ => ⟨rfl, rfl, rfl, rfl⟩
  | hideTooltip name => exact steady_onBuffer name fun place => (s.mild_hideTooltip place).local.steady
  | note what => exact ⟨rfl, rfl, rfl, by simp [apply, closings, record]⟩
  | listen | publish | fail => exact ⟨rfl, rfl, rfl, rfl⟩

theorem steady_handshake (s : Session) (next : AfterHandshake) :
    Steady s (s.handshake next).1 := by
  have hjoined : Steady s s.joined.1 := by
    unfold joined
    split <;> exact ⟨rfl, rfl, rfl, rfl⟩
  unfold handshake
  split
  · exact Steady.refl s
  · dsimp only
    split
    · exact hjoined.trans (local_afterHandshake _ _ _).steady
    · exact hjoined

theorem steady_begin {depth who : Nat} {operation : Operation} {a : Advance}
    (h : s.begin depth who operation = some a) (hc : ∀ c, operation ≠ .perform c) :
    Steady s a.1 := by
  obtain hl | ⟨c, rfl⟩ | rfl | ⟨name, text, rfl⟩ := s.local_begin depth who h
  · exact hl.steady
  · exact absurd rfl (hc c)
  · cases h
    exact s.steady_handshake _
  · cases h
    unfold inBuffer
    split
    · exact Steady.refl s
    · exact s.steady_handshake _

theorem steady_deliver (s : Session) (isDelivered : Bool) (n : Notice) :
    Steady s (Pool.deliver s isDelivered n) := by
  refine ⟨?_, ?_, ?_, s.closings_deliver isDelivered n⟩ <;> cases isDelivered <;> rfl

/-- A closed session starts no handshake. -/
theorem exchanges_begin_of_closed {depth who : Nat} {operation : Operation} {a : Advance}
    (hp : s.phase = .closed) (h : s.begin depth who operation = some a) :
    a.1.exchanges = s.exchanges := by
  have hhandshake (next : AfterHandshake) : (s.handshake next).1 = s := by
    rw [handshake, if_pos hp, stop]
  obtain ⟨buffers, events, ha, -, -⟩ | ⟨c, rfl⟩ | rfl | ⟨name, text, rfl⟩ :=
    s.local_begin depth who h
  · rw [ha]
  · obtain ⟨b, hb, rfl⟩ := Option.map_eq_some_iff.mp h
    exact (rests_commands.perform hb).exchanges
  · cases h
    rw [hhandshake]
  · cases h
    unfold inBuffer
    split
    · rfl
    · rw [hhandshake]

theorem settings_close (s : Session) : s.close.settings = s.settings := by
  unfold close
  split <;> rfl

theorem settings_detach (s : Session) (place : Nat) :
    (s.detach place).settings = s.settings := by
  unfold detach
  split
  · rfl
  · dsimp only
    split
    · exact settings_close _
    · rfl

theorem settings_apply (s : Session) (c : Command) : (s.apply c).1.settings = s.settings := by
  by_cases hclose : c = .close
  · subst hclose
    exact s.settings_close
  · by_cases hdetach : ∃ name, c = .detach name
    · obtain ⟨name, rfl⟩ := hdetach
      simp only [apply, onBuffer]
      split
      · rfl
      · exact s.settings_detach _
    · exact (s.steady_apply hclose fun name hc => hdetach ⟨name, hc⟩).settings

theorem settings_commands : CommandInvariant fun s t => t.settings = s.settings where
  refl _ := rfl
  trans h h' := h'.trans h
  apply := settings_apply
  showFindings s place push := (s.mild_showFindings place push).local.steady.settings
  heard s name push := (s.steady_heard name push).settings

theorem settings_exchangeFailed (s : Session) (number : Nat) (why : Failure) :
    (s.exchangeFailed number why).settings = s.settings := by
  unfold exchangeFailed
  dsimp only
  split <;> rfl

theorem settings_beginExchange (s : Session) (number : Nat) :
    (s.beginExchange number).settings = s.settings := by
  obtain ⟨why, -, hb⟩ | ⟨i, -, hb⟩ := s.beginExchange_cases number <;> rw [hb]

theorem settings_exchangeAnswered (s : Session) (number : Nat) (answer : Except Failure Value) :
    (s.exchangeAnswered number answer).settings = s.settings := by
  obtain ⟨-, why, ha⟩ | ⟨c, -, ⟨-, ha⟩ | ⟨-, ha⟩⟩ := s.exchangeAnswered_cases number answer
  · rw [ha, settings_exchangeFailed]
  all_goals simp only [ha, setExchange, record]

theorem settings_after (x : Entry) : (relay.after x).settings = x.before.settings := by
  cases x with
  | did s c =>
    rw [after_did]
    exact s.settings_apply c
  | told s subscriber push =>
    cases subscriber with
    | buffer place => exact (s.mild_showFindings place push).local.steady.settings
    | host place =>
      simp only [Relay.after, relay]
      split <;> rfl
  | sent | ended => rfl

/-! ## What closes a session -/

/-- A buffer that is detached leaves nobody attached if no other buffer was. -/
theorem deserts_detach_iff {name : String} (h : InStep history s) :
    Happening.Deserts history (.did s (.detach name)) ↔
      ∃ place token, s.find? name = some place ∧ s.token? place = some token ∧
        s.attached.filter (·.1 ≠ place) = [] := by
  have hafter {place : Nat} (hp : s.find? name = some place) (other : Nat) :
      attends (history ++ [.did s (.detach name)]) (.buffer other) =
        ((s.attached.filter (·.1 ≠ place)).lookup other).isSome := by
    have hdone : (relay.after (.did s (.detach name))) = s.detach place := by
      rw [after_did, apply, onBuffer, hp]
    have hnow := (inStep_after (x := .did s (.detach name)) h).attached other
    rw [← hnow, hdone, isSome_token?_detach, Registry.lookup_filter_ne]
    by_cases ho : other = place <;> simp [ho, token?]
  constructor
  · rintro ⟨place, hdetaches, hwas, hnobody⟩
    obtain ⟨t, name', heq, hp⟩ := Happening.exists_detach_of_attaches? hdetaches
    cases heq
    rw [← h.attached, Option.isSome_iff_exists] at hwas
    obtain ⟨token, hl⟩ := hwas
    refine ⟨place, token, hp, hl, List.eq_nil_iff_forall_not_mem.mpr fun entry hm => ?_⟩
    have hnone : (s.attached.filter (·.1 ≠ place)).lookup entry.1 = none := by
      have hn := hnobody entry.1
      rwa [hafter hp, Option.isSome_eq_false_iff, Option.isNone_iff_eq_none] at hn
    have hne := List.lookup_eq_none_iff.mp hnone entry hm
    simp at hne
  · rintro ⟨place, token, hp, hl, hnil⟩
    refine ⟨place, by simp [Happening.attaches?, hp], ?_, fun other => ?_⟩
    · rw [← h.attached, hl]
      rfl
    · rw [hafter hp, hnil]
      rfl

/-- Only commands close a session. -/
theorem not_closes_of_not_did (h : ∀ s c, x ≠ .did s c) : ¬ x.Closes closesItself history := by
  rintro (_ | ⟨-, place, hdetaches, -⟩)
  · exact h _ _ rfl
  · obtain ⟨s, name, rfl, -⟩ := Happening.exists_detach_of_attaches? hdetaches
    exact h _ _ rfl

theorem not_closes_did {c : Command} (hclose : c ≠ .close) (hdetach : ∀ name, c ≠ .detach name) :
    ¬ Happening.Closes closesItself history (.did s c) := by
  rintro (_ | ⟨-, place, hdetaches, -⟩)
  · exact hclose rfl
  · obtain ⟨t, name, heq, -⟩ := Happening.exists_detach_of_attaches? hdetaches
    cases heq
    exact hdetach name rfl

theorem ClosedBy.sound (h : ClosedBy closesItself history s) : s.Sound := by
  by_cases hw : WasClosed closesItself history
  · exact .inr (h.shut hw)
  · exact .inl (h.unclosed hw)

theorem ClosedBy.steady (h : ClosedBy closesItself history s) (hl : Steady s t) :
    ClosedBy closesItself history t where
  shut hw := hl.shut (h.shut hw)
  unclosed hw := ⟨hl.closings.trans (h.unclosed hw).1, hl.phase ▸ (h.unclosed hw).2⟩

/-- What closes no session leaves it as its history says. -/
theorem ClosedBy.concat (h : ClosedBy closesItself history s) (hl : Steady s t)
    (hx : ¬ x.Closes closesItself history) : ClosedBy closesItself (history ++ [x]) t := by
  have ht := h.steady hl
  have hw : WasClosed closesItself (history ++ [x]) ↔ WasClosed closesItself history := by
    rw [wasClosed_concat, or_iff_left hx]
  exact ⟨fun h' => ht.shut (hw.mp h'), fun h' => ht.unclosed (mt hw.mpr h')⟩

/-- What closes a session closes it once, or leaves it closed. -/
theorem ClosedBy.closes (h : ClosedBy closesItself history s) (hl : Lives s t)
    (hp : t.phase = .closed) (hx : x.Closes closesItself history) :
    ClosedBy closesItself (history ++ [x]) t where
  shut _ := by
    obtain ⟨-, hopen⟩ | hshut := h.sound.lives hl
    · exact absurd hp hopen
    · exact hshut
  unclosed hw := absurd (wasClosed_concat.mpr (.inr hx)) hw

theorem phase_close (s : Session) : s.close.phase = .closed := by
  unfold close
  split
  · assumption
  · rfl

/-- A buffer that is detached closes a session that closes itself, if it was the last one. -/
theorem closedBy_detach (name : String) (hs : InStep history s)
    (h : ClosedBy s.settings.closesItself history s) :
    ClosedBy s.settings.closesItself (history ++ [.did s (.detach name)])
      (s.apply (.detach name)).1 := by
  by_cases hx : Happening.Closes s.settings.closesItself history (.did s (.detach name))
  · refine h.closes (s.lives_apply _) ?_ hx
    cases hx with
    | deserted itself deserts =>
      obtain ⟨place, token, hp, hl, hnil⟩ := (deserts_detach_iff hs).mp deserts
      have hcloses : (s.settings.closesItself && (s.attached.filter (·.1 ≠ place)).isEmpty) = true := by
        rw [itself, hnil]
        rfl
      simp only [apply, onBuffer, hp, detach, hl, if_pos hcloses]
      exact phase_close _
  · have hsteady : Steady s (s.apply (.detach name)).1 := by
      simp only [apply, onBuffer]
      split
      · exact Steady.refl s
      · rename_i place hp
        refine s.steady_detach place fun token hl hnil => ?_
        by_contra hitself
        refine hx (.deserted (by simpa using hitself) ?_)
        exact (deserts_detach_iff hs).mpr ⟨place, token, hp, hl, hnil⟩
    exact h.concat hsteady hx

/-- Whatever happens to a session, it is closed as its history says. -/
theorem closedBy_after (hs : InStep history x.before)
    (h : ClosedBy x.before.settings.closesItself history x.before) :
    ClosedBy x.before.settings.closesItself (history ++ [x]) (relay.after x) := by
  cases x with
  | did s c =>
    rw [after_did]
    by_cases hclose : c = .close
    · subst hclose
      exact h.closes s.lives_close s.phase_close .asked
    · by_cases hdetach : ∃ name, c = .detach name
      · obtain ⟨name, rfl⟩ := hdetach
        exact closedBy_detach name hs h
      · have hdetach : ∀ name, c ≠ .detach name := fun name hc => hdetach ⟨name, hc⟩
        exact h.concat (s.steady_apply hclose hdetach) (not_closes_did hclose hdetach)
  | told s subscriber push =>
    refine h.concat ?_ (not_closes_of_not_did fun _ _ hx => by cases hx)
    cases subscriber with
    | buffer place => exact (s.mild_showFindings place push).local.steady
    | host place =>
      simp only [Relay.after, relay]
      split
      · exact Steady.refl s
      · exact s.steady_heard _ push
  | sent | ended =>
    exact h.concat (Steady.refl _) (not_closes_of_not_did fun _ _ hx => by cases hx)

end
end Session

/-! ## Runs -/

namespace Pool
open Session

/-- Whether the transport is closed in a step. -/
def Step.closes (x : Step) : Bool :=
  decide (x.before.session.closings < x.after.session.closings)

section
variable {depth : Nat} {settings : Settings} {p q : Pool} {m : Move} {steps : List Step}
  {history : List Session.Entry}

/-- What is decided before a session starts stays so. -/
theorem settings_move (possible : p.move? depth m = some q) :
    q.session.settings = p.session.settings := by
  have hdeliver (isDelivered : Bool) (n : Notice) :
      (deliver p.session isDelivered n).settings = p.session.settings := by
    cases isDelivered <;> rfl
  cases moves_of_possible possible with
  | submit operation => rfl
  | @begin who operation a created begins =>
    by_cases hc : ∃ c, operation = .perform c
    · obtain ⟨c, rfl⟩ := hc
      obtain ⟨b, hb, rfl⟩ := Option.map_eq_some_iff.mp begins
      exact settings_commands.perform hb
    · exact (p.session.steady_begin begins fun c h => hc ⟨c, h⟩).settings
  | command performs => exact settings_commands.perform performs
  | beginExchange scheduled => exact p.session.settings_beginExchange _
  | answerExchange answer requested => exact p.session.settings_exchangeAnswered _ answer
  | announceExchange isDelivered outcome announcing => exact hdeliver _ _
  | wake paused ended => exact (local_afterHandshake _ _ _).steady.settings
  | grant paused holds => exact (local_turnCame _ _ _).steady.settings
  | sent isDelivered outcome paused =>
    exact (local_noticeSent _ _ _).steady.settings.trans (hdeliver _ _)
  | answer answer paused => exact (aside_answered _ _ _).mild.local.steady.settings

/-- Nothing but a command closes a session, as long as no exchange is in progress. -/
theorem steady_move (possible : p.move? depth m = some q)
    (gives : Step.command? ⟨p, m, q⟩ = none) (other : m.exchange? = none) :
    Steady p.session q.session := by
  cases moves_of_possible possible with
  | submit operation => exact Steady.refl _
  | @begin who operation a created begins =>
    refine p.session.steady_begin begins ?_
    rintro c rfl
    simp [Step.command?, begun?_begin _ created] at gives
  | command performs => cases gives
  | beginExchange | answerExchange | announceExchange => cases other
  | wake paused ended => exact (local_afterHandshake _ _ _).steady
  | grant paused holds => exact (local_turnCame _ _ _).steady
  | sent isDelivered outcome paused =>
    exact (steady_deliver _ _ _).trans (local_noticeSent _ _ _).steady
  | answer answer paused => exact (aside_answered _ _ _).mild.local.steady

/-- Where no handshake is in progress, no move is about one. -/
theorem exchange?_eq_none (possible : p.move? depth m = some q) (h : p.session.AtRest) :
    m.exchange? = none := by
  have hover {number : Nat} {e : Exchange} (he : p.session.exchanges[number]? = some e)
      (hn : e.isOver = false) : False := by
    rw [h e (List.mem_of_getElem? he)] at hn
    cases hn
  cases moves_of_possible possible with
  | beginExchange scheduled => exact (hover scheduled rfl).elim
  | answerExchange answer requested => exact (hover requested rfl).elim
  | announceExchange isDelivered outcome announcing => exact (hover announcing rfl).elim
  | _ => rfl

/-- No handshake is asked for once a session is closed, or while it is. -/
theorem exchanges_move (possible : p.move? depth m = some q) (h : p.session.AtRest)
    (closed : p.session.phase = .closed ∨ p.session.closings < q.session.closings) :
    q.session.exchanges = p.session.exchanges := by
  have other := exchange?_eq_none possible h
  cases moves_of_possible possible with
  | submit operation => rfl
  | @begin who operation a created begins =>
    by_cases hc : ∃ c, operation = .perform c
    · obtain ⟨c, rfl⟩ := hc
      obtain ⟨b, hb, rfl⟩ := Option.map_eq_some_iff.mp begins
      exact (rests_commands.perform hb).exchanges
    · have hsteady := p.session.steady_begin begins fun c h => hc ⟨c, h⟩
      obtain hp | hlt := closed
      · exact exchanges_begin_of_closed hp begins
      · exact absurd hsteady.closings (Nat.ne_of_gt hlt)
  | command performs => exact (rests_commands.perform performs).exchanges
  | beginExchange | answerExchange | announceExchange => cases other
  | wake paused ended => exact (local_afterHandshake _ _ _).exchanges
  | grant paused holds => exact (local_turnCame _ _ _).exchanges
  | @sent who n next isDelivered outcome paused =>
    have hdelivered := (rests_deliver p.session isDelivered n).exchanges
    exact (local_noticeSent _ outcome next).exchanges.trans hdelivered
  | answer answer paused => exact (aside_answered _ _ _).mild.local.exchanges

/-- A session that is closed while no handshake is in progress is closed for good, and no
handshake is in progress afterwards. -/
theorem shut_and_atRest (run : Run depth (ofSession (.start settings)) steps q)
    (resting : ∀ x ∈ steps, x.closes = true → x.before.session.AtRest) :
    q.session.Sound ∧ (0 < q.session.closings → q.session.AtRest) := by
  refine run.invariant (P := fun p => p.session.Sound ∧ (0 < p.session.closings → p.session.AtRest))
    ⟨.inl ⟨rfl, by simp [ofSession, Session.start]⟩, by simp [ofSession, Session.start, closings]⟩
    fun x hx ⟨hsound, hrest⟩ => ?_
  have possible := run.step_possible hx
  refine ⟨sound_move possible hsound fun hc => ?_, fun hc => ?_⟩
  · have other := exchange?_eq_none possible (hrest hc)
    cases hm : x.move <;> simp_all [Move.exchange?, Move.setsPhase]
  · have hbefore : x.before.session.AtRest := by
      by_cases h0 : 0 < x.before.session.closings
      · exact hrest h0
      · exact resting x hx (decide_eq_true (by omega))
    have hexchanges : x.after.session.exchanges = x.before.session.exchanges := by
      refine exchanges_move possible hbefore ?_
      by_cases h0 : 0 < x.before.session.closings
      · exact .inl (hsound.shut h0).phase
      · exact .inr (by omega)
    rw [AtRest, hexchanges]
    exact hbefore

/-- The accounts of a session and whether it was closed agree with its history. -/
structure Consistent (settings : Settings) (history : List Session.Entry) (s : Session) : Prop where
  inStep : InStep history s
  decided : s.settings = settings
  closedBy : ClosedBy settings.closesItself history s

theorem Consistent.after {x : Session.Entry} (h : Consistent settings history x.before) :
    Consistent settings (history ++ [x]) (Session.relay.after x) where
  inStep := inStep_after h.inStep
  decided := (settings_after x).trans h.decided
  closedBy := by
    have hafter := closedBy_after (x := x) h.inStep
    rw [h.decided] at hafter
    exact hafter h.closedBy

/-- A move about an exchange leaves a session that was never closed unclosed. -/
theorem unclosed_move (possible : p.move? depth m = some q) (other : m.exchange? ≠ none)
    (hc : p.session.closings = 0) (hp : p.session.phase ≠ .closed) :
    q.session.closings = 0 ∧ q.session.phase ≠ .closed := by
  cases moves_of_possible possible with
  | answerExchange answer requested =>
    exact ⟨(closings_exchangeAnswered _ _ answer).trans hc, phase_exchangeAnswered _ _ answer hp⟩
  | beginExchange | announceExchange =>
    obtain ⟨hclosings, hphase⟩ := closings_move_of_setsPhase possible rfl
    exact ⟨hclosings.trans hc, hphase⟩
  | _ => exact absurd rfl other

/-- A step without a command leaves a session consistent with its history. -/
theorem Consistent.move (possible : p.move? depth m = some q)
    (h : Consistent settings history p.session) (gives : Step.command? ⟨p, m, q⟩ = none)
    (resting : 0 < p.session.closings → p.session.AtRest) :
    Consistent settings history q.session where
  inStep := by
    obtain ⟨-, hstill⟩ | ⟨c, hc, -⟩ := command_move possible
    · exact h.inStep.congr hstill.registry
    · rw [gives] at hc
      cases hc
  decided := (settings_move possible).trans h.decided
  closedBy := by
    by_cases other : m.exchange? = none
    · exact h.closedBy.steady (steady_move possible gives other)
    · refine ⟨fun hw => absurd ?_ other, fun hw => ?_⟩
      · have hone := (h.closedBy.shut hw).closings
        exact exchange?_eq_none possible (resting (by omega))
      · obtain ⟨hc, hp⟩ := h.closedBy.unclosed hw
        exact unclosed_move possible other hc hp

theorem consistent_start (settings : Settings) : Consistent settings [] (Session.start settings) where
  inStep := ⟨Registry.sound_empty, fun place => rfl⟩
  decided := rfl
  closedBy := by
    refine ⟨?_, fun _ => ⟨rfl, by simp [Session.start]⟩⟩
    rintro ⟨first, x, hp, -⟩
    simp at hp

/-- A session is closed by word, or with the last buffer that is detached if it closes itself;
the transport is closed once then, and the session stays closed and is not ready. Until then it is
not closed. This holds at every moment of a run that closes the session while no handshake is in
progress. -/
theorem closes_with_last_buffer (run : Run depth (ofSession (.start settings)) steps q)
    (resting : ∀ x ∈ steps, x.closes = true → x.before.session.AtRest) :
    ∃ history, Chronicle steps history ∧ Consistent settings history q.session ∧
      ∀ first x rest, history = first ++ x :: rest → Consistent settings first x.before := by
  obtain ⟨history, chronicle⟩ := exists_chronicle run
  refine ⟨history, chronicle, chronicle.keeps run (consistent_start settings)
    (fun _ _ h => h.after) fun x hx gives past h => ?_⟩
  obtain ⟨first, second, rfl⟩ := List.append_of_mem hx
  have hbefore := shut_and_atRest run.at_step.1 fun y hy => resting y (List.mem_append_left _ hy)
  exact h.move (run.step_possible hx) gives hbefore.2

end

/-- What is decided about a session that closes with the last buffer. -/
def closingItself : Settings := { Settings.standard with closesItself := true }

/-- A listener detaches both buffers of a session that is ready, one of them twice; the session
closes with the second one. Then a buffer comes back and leaves, and the session is closed by
word. -/
def leavingForGood : List Move :=
  [.command (.create "a" "file:///a" "text" .standard),
    .command (.create "b" "file:///b" "text" .standard),
    .submit .handshake, .begin 0, .beginExchange 0,
    .answerExchange 0 (.ok (Wire.ofIntroduced (.object []))), .announceExchange 0 true (.ok ()),
    .command (.listen "l" [.detach "a", .detach "a", .attach "a", .detach "b", .detach "a"]),
    .command (.publish ⟨"note", .untyped .null⟩),
    .command (.attach "a"), .command (.detach "c"), .command (.detach "a"), .command .close]

theorem closes_leavingForGood :
    ((ofSession (.start closingItself)).run? 1 leavingForGood).map
        (fun p => (p.session.closings, p.session.phase)) = some (1, .closed) ∧
      ∃ q history, Chronicle (trail 1 (ofSession (.start closingItself)) leavingForGood) history ∧
        Consistent closingItself history q ∧
        ∀ first x rest, history = first ++ x :: rest → Consistent closingItself first x.before := by
  have run : ∃ q, Run 1 (ofSession (.start closingItself))
      (trail 1 (ofSession (.start closingItself)) leavingForGood) q := ⟨_, run_trail rfl⟩
  obtain ⟨q, run⟩ := run
  obtain ⟨history, h⟩ := closes_with_last_buffer run (by decide)
  exact ⟨rfl, q.session, history, h⟩

end Pool
end EditorLink
