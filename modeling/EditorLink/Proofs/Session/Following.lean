import EditorLink.Proofs.Session.Deeds
import EditorLink.Proofs.Session.Run

/-!
# What moves do for a document

Every move of a pool is one possible deed of the channel of a document, whatever else
goes on in the session. So a run of a pool is a run of each of its channels, and the
notices that a step hands over or brings to an end are those of its deed.
-/
namespace EditorLink

namespace Pool
open Session
variable {depth place who : Nat} {p q : Pool}

/-- Only documents of buffers that exist give anything to do. -/
def Placed (place : Nat) (p : Pool) : Prop :=
  ∀ who, p.errand place who ≠ none → place < p.session.buffers.length

/-- The document at a place has seen a possible deed. -/
structure Follows (place : Nat) (p : Pool) (d : Deed) (q : Pool) : Prop where
  result : q.channel place = (p.channel place).apply d
  allowed : (p.channel place).Allows d
  placed : q.Placed place

theorem version_channel_ne_zero :
    (p.channel place).version ≠ 0 ↔ (p.session.buffer place).isOpen = true := by
  simp [Pool.channel, Session.channel, Buffer.isOpen]

theorem errand_of_pause (place : Nat) {pause : Pause} (h : p.pause? who = some pause) :
    p.errand place who = pause.errand? place := by
  simp [errand, h]

theorem deed_begin {operation : Operation} (h : p.tasks[who]? = some (.created operation)) :
    p.deed place (.begin who) = p.session.beginDeed who place operation := by
  simp only [deed, h]

/-- What comes to its end with a notice is either about the document or not. -/
theorem deed_sent (place : Nat) {n : Notice} {next : AfterNotice}
    (paused : p.pause? who = some (.notice n next)) (isDelivered : Bool)
    (outcome : Except Failure Unit) :
    p.deed place (.sent who isDelivered outcome) = .nothing ∨
      p.deed place (.sent who isDelivered outcome) = .told who n isDelivered ∨
      p.deed place (.sent who isDelivered outcome) = .sent who n isDelivered := by
  simp only [deed, paused]
  cases next with
  | finish => exact .inl rfl
  | opened other =>
    by_cases ho : other = place
    · exact .inr (.inl (if_pos ho))
    · exact .inl (if_neg ho)
  | changed other next =>
    by_cases ho : other = place
    · exact .inr (.inr (if_pos ho))
    · exact .inl (if_neg ho)

/-- Where only changes are made, nobody waits for opening the document. -/
theorem deed_wake_of_changes (h : ∀ who e, p.errand place who = some e → e.isChange = true) :
    p.deed place (.wake who) = .nothing := by
  unfold deed
  dsimp only
  split
  · rename_i number other text hw
    refine if_neg ?_
    rintro rfl
    cases h who (.await text) ((errand_of_pause other hw).trans (if_pos rfl))
  · rfl

/-- Where only changes are made, nobody has told the server the text of the document. -/
theorem deed_sent_of_changes (h : ∀ who e, p.errand place who = some e → e.isChange = true)
    {n : Notice} {next : AfterNotice} (paused : p.pause? who = some (.notice n next))
    (isDelivered : Bool) (outcome : Except Failure Unit) :
    p.deed place (.sent who isDelivered outcome) = .nothing ∨
      p.deed place (.sent who isDelivered outcome) = .sent who n isDelivered := by
  simp only [deed, paused]
  cases next with
  | finish => exact .inl rfl
  | opened other =>
    refine .inl (if_neg ?_)
    rintro rfl
    cases h who (.opening n) ((errand_of_pause other paused).trans (if_pos rfl))
  | changed other next =>
    by_cases ho : other = place
    · exact .inr (if_pos ho)
    · exact .inl (if_neg ho)

theorem errand_of_created {operation : Operation}
    (h : p.tasks[who]? = some (.created operation)) : p.errand place who = none := by
  simp [errand, pause?_eq_none_of_created h]

theorem errand_advance (h : who < p.tasks.length) (a : Advance) :
    (p.advance who a).errand place = Function.update (p.errand place) who (a.2.errand? place) := by
  funext other
  by_cases ho : other = who
  · subst ho
    rw [Function.update_self]
    cases ha : a.2 <;> simp [errand, pause?, advance, h, ha, Progress.errand?]
  · rw [Function.update_of_ne ho]
    simp [errand, pause?, advance, Ne.symm ho]

/-- What an operation does for a document is what its pool does for it. -/
theorem follows_advance {a : Advance} {d : Deed} (hp : p.Placed place) (hw : who < p.tasks.length)
    (hl : p.session.buffers.length ≤ a.1.buffers.length)
    (h : Acts p.session place who (p.errand place) a d) : Follows place p d (p.advance who a) where
  result := by
    rw [Pool.channel, errand_advance hw]
    exact h.result
  allowed := h.allowed
  placed other hn := by
    rw [errand_advance hw] at hn
    refine Nat.lt_of_lt_of_le ?_ hl
    by_cases ho : other = who
    · subst ho
      rw [Function.update_self] at hn
      exact h.present hn
    · rw [Function.update_of_ne ho] at hn
      exact hp other hn

theorem follows_grows (hp : p.Placed place) (h : Grows p.session q.session)
    (he : q.errand place = p.errand place) : Follows place p .nothing q where
  result := by
    rw [Pool.channel, he, h.keeps]
    rfl
  allowed := trivial
  placed other hn := Nat.lt_of_lt_of_le (hp other (he ▸ hn)) h.length_le

theorem errand_submit (p : Pool) (place : Nat) (operation : Operation) :
    ({ p with tasks := p.tasks ++ [.created operation] } : Pool).errand place = p.errand place := by
  funext who
  have h : ({ p with tasks := p.tasks ++ [.created operation] } : Pool).pause? who =
      p.pause? who := by
    unfold pause?
    rcases Nat.lt_trichotomy who p.tasks.length with hw | hw | hw
    · simp [List.getElem?_append_left hw]
    · simp [hw]
    · simp [List.getElem?_eq_none (Nat.le_of_lt hw), List.getElem?_append_right (Nat.le_of_lt hw),
        Nat.sub_ne_zero_of_lt hw]
  rw [errand, h, errand]

theorem follows_wake {number : Nat} {next : AfterHandshake} {outcome : Except Failure Unit}
    (hp : p.Placed place) (hq : p.pause? who = some (.exchange number next))
    (ho : (p.session.exchanges[number]?).bind Exchange.outcome? = some outcome) :
    Follows place p (p.deed place (.wake who))
      (p.advance who (p.session.afterHandshake next outcome)) := by
  have hw := (List.getElem?_eq_some_iff.mp (pause?_eq_some.mp hq)).1
  have hl := Nat.le_of_eq (p.session.local_afterHandshake next outcome).length_buffers.symm
  have he := errand_of_pause place hq
  by_cases hn : ∃ text, next = .openBuffer place text
  · obtain ⟨text, rfl⟩ := hn
    have he' : p.errand place who = some (.await text) := he.trans (if_pos rfl)
    have hd : p.deed place (.wake who) = p.session.openDeed who place text (some outcome) := by
      simp only [deed, hq, if_pos, ho]
    rw [hd]
    exact follows_advance hp hw hl (acts_afterHandshake (hp who (by simp [he'])) (.inr he') outcome)
  · have hn' (text : Document) : next ≠ .openBuffer place text := fun h => hn ⟨text, h⟩
    have he' : p.errand place who = none ∧ p.deed place (.wake who) = .nothing := by
      rw [he]
      cases next with
      | finish => exact ⟨rfl, by simp only [deed, hq]⟩
      | openBuffer other text =>
        have ho : other ≠ place := by simpa using hn' text
        exact ⟨if_neg ho, by simp only [deed, hq, if_neg ho]⟩
    rw [he'.2]
    exact follows_advance hp hw hl ((p.session.elsewhere_afterHandshake hn' outcome).acts he'.1)

theorem follows_grant {other : Nat} {next : AfterTurn} (hp : p.Placed place)
    (hq : p.pause? who = some (.turn other next))
    (hh : (p.session.buffer other).turns.holder = some who) :
    Follows place p (p.deed place (.grant who))
      (p.advance who (p.session.turnCame other next)) := by
  have hw := (List.getElem?_eq_some_iff.mp (pause?_eq_some.mp hq)).1
  have hl := Nat.le_of_eq (p.session.local_turnCame other next).length_buffers.symm
  have he := errand_of_pause place hq
  by_cases ho : other = place
  · subst ho
    have he' : p.errand other who = some (.queue next.events) := he.trans (if_pos rfl)
    have hd : p.deed other (.grant who) = .grant who (p.session.buffer other).uri next.events := by
      simp only [deed, hq, if_pos]
    rw [hd]
    exact follows_advance hp hw hl (acts_turnCame (hp who (by simp [he'])) he' hh)
  · have hd : p.deed place (.grant who) = .nothing := by simp only [deed, hq, if_neg ho]
    rw [hd]
    have ha : Elsewhere place p.session (p.session.turnCame other next) :=
      p.session.elsewhere_sendNow ho _ _
    exact follows_advance hp hw hl (ha.acts (he.trans (if_neg ho)))

theorem follows_sent {n : Notice} {next : AfterNotice} (hp : p.Placed place)
    (hq : p.pause? who = some (.notice n next)) (isDelivered : Bool)
    (outcome : Except Failure Unit) :
    Follows place p (p.deed place (.sent who isDelivered outcome))
      (p.advance who ((deliver p.session isDelivered n).noticeSent outcome next)) := by
  have hw := (List.getElem?_eq_some_iff.mp (pause?_eq_some.mp hq)).1
  have hb := p.session.buffers_deliver isDelivered n
  have hl : (deliver p.session isDelivered n).buffers.length = p.session.buffers.length := by
    rw [hb]
  have he := errand_of_pause place hq
  refine follows_advance hp hw ?_ (Acts.of_grows (grows_of_buffers hb) hl ?_)
  · exact Nat.le_of_eq (by rw [(local_noticeSent _ _ _).length_buffers, hl])
  cases next with
  | finish =>
    have hd : p.deed place (.sent who isDelivered outcome) = .nothing := by simp only [deed, hq]
    have ha : Elsewhere place (deliver p.session isDelivered n)
      ((deliver p.session isDelivered n).noticeSent outcome .finish) := ⟨Keeps.refl _ _, rfl⟩
    rw [hd]
    exact ha.acts he
  | opened other =>
    by_cases ho : other = place
    · have hd : p.deed place (.sent who isDelivered outcome) = .told who n isDelivered := by
        simp only [deed, hq, if_pos ho]
      rw [hd]
      exact acts_bufferOpened (he.trans (if_pos ho)) isDelivered outcome
    · have hd : p.deed place (.sent who isDelivered outcome) = .nothing := by
        simp only [deed, hq, if_neg ho]
      rw [hd]
      exact ((aside_bufferOpened _ other outcome).elsewhere place).acts (he.trans (if_neg ho))
  | changed other next =>
    by_cases ho : other = place
    · subst ho
      have he' : p.errand other who = some (.changing n) := he.trans (if_pos rfl)
      have hd : p.deed other (.sent who isDelivered outcome) = .sent who n isDelivered := by
        simp only [deed, hq, if_pos]
      rw [hd]
      exact acts_changeSent (hl ▸ hp who (by simp [he'])) he' isDelivered next outcome
    · have hd : p.deed place (.sent who isDelivered outcome) = .nothing := by
        simp only [deed, hq, if_neg ho]
      rw [hd]
      exact (elsewhere_changeSent _ ho next outcome).acts (he.trans (if_neg ho))

/-- Every move of a pool is one possible deed for the document at a place. -/
theorem follows_move {m : Move} (possible : p.move? depth m = some q) (hp : p.Placed place) :
    Follows place p (p.deed place m) q := by
  cases moves_of_possible possible with
  | submit operation =>
    exact follows_grows hp (grows_of_buffers rfl) (p.errand_submit place operation)
  | begin created begins =>
    rw [deed_begin created]
    exact follows_advance hp (List.getElem?_eq_some_iff.mp created).1 (length_le_begin begins)
      (acts_begin (errand_of_created created) begins)
  | command performs => exact follows_grows hp (grows_commands.perform performs) rfl
  | beginExchange scheduled => exact follows_grows hp (grows_of_buffers (by simp)) rfl
  | answerExchange answer requested => exact follows_grows hp (grows_of_buffers (by simp)) rfl
  | announceExchange isDelivered outcome announcing =>
    exact follows_grows hp (grows_of_buffers (buffers_deliver _ _ _)) rfl
  | wake paused ended => exact follows_wake hp paused ended
  | grant paused holds => exact follows_grant hp paused holds
  | sent isDelivered outcome paused => exact follows_sent hp paused isDelivered outcome
  | @answer who request seconds next answer paused =>
    have hw := (List.getElem?_eq_some_iff.mp (pause?_eq_some.mp paused)).1
    have ha := p.session.aside_answered answer next
    have hl := Nat.le_of_eq ha.mild.local.length_buffers.symm
    exact follows_advance hp hw hl ((ha.elsewhere place).acts (errand_of_pause place paused))

theorem placed_run {steps : List Step} (hp : p.Placed place) (run : Run depth p steps q) :
    q.Placed place := by
  induction run with
  | start => exact hp
  | next _ possible ih => exact (follows_move possible ih).placed

/-! ## Notices -/

/-- The notice about a document that an operation has handed over. -/
def notice? (place : Nat) (p : Pool) (who : Nat) : Option Notice :=
  (p.errand place who).bind Errand.notice?

/-- The notice about a document that is handed over in a step. -/
def Step.handed? (place : Nat) (x : Step) : Option Notice :=
  match x.move with
  | .begin who | .wake who | .grant who => x.after.notice? place who
  | _ => none

/-- The notice about a document that comes to its end in a step, and whether it has
reached the server. -/
def Step.settled? (place : Nat) (x : Step) : Option (Notice × Bool) :=
  match x.move with
  | .sent who isDelivered _ => (x.before.notice? place who).map fun n => (n, isDelivered)
  | _ => none

/-- The notice about a document that reaches the server in a step. -/
def Step.delivered? (place : Nat) (x : Step) : Option Notice :=
  match x.settled? place with
  | some (n, true) => some n
  | _ => none

/-- The notice about a document that is lost in a step. -/
def Step.lost? (place : Nat) (x : Step) : Option Notice :=
  match x.settled? place with
  | some (n, false) => some n
  | _ => none

theorem notice?_of_pause (place : Nat) {pause : Pause} (h : p.pause? who = some pause) :
    p.notice? place who = (pause.errand? place).bind Errand.notice? := by
  rw [notice?, errand_of_pause place h]

/-- Only what was sent and has come to its end reaches the server. -/
theorem sent_of_delivered? {m : Move} {n : Notice}
    (h : Step.delivered? place ⟨p, m, q⟩ = some n) :
    ∃ who outcome, m = .sent who true outcome ∧ p.notice? place who = some n := by
  unfold Step.delivered? Step.settled? at h
  cases m with
  | sent who isDelivered outcome =>
    cases hn : p.notice? place who with
    | none => simp [hn] at h
    | some sent =>
      cases isDelivered with
      | false => simp [hn] at h
      | true =>
        simp only [hn, Option.map_some, Option.some.injEq] at h
        exact ⟨who, outcome, rfl, h ▸ hn⟩
  | _ => cases h

theorem settled?_eq (place : Nat) {x : Step}
    (possible : x.before.move? depth x.move = some x.after) :
    x.settled? place = (x.before.deed place x.move).settled? := by
  obtain ⟨p, m, q⟩ := x
  dsimp only at possible ⊢
  unfold Step.settled?
  cases moves_of_possible possible with
  | begin created begins =>
    rw [deed_begin created]
    exact (p.session.starts_beginDeed _ place _).settled?.symm
  | wake paused ended =>
    simp only [deed, paused]
    split
    · split
      · exact (p.session.starts_openDeed _ place _ _).settled?.symm
      · rfl
    · rfl
  | grant paused holds =>
    simp only [deed, paused]
    split <;> rfl
  | @sent who n next isDelivered outcome paused =>
    simp only [deed, notice?_of_pause place paused, paused]
    cases next with
    | finish => rfl
    | opened other =>
      simp only [Pause.errand?]
      split <;> rfl
    | changed other next =>
      simp only [Pause.errand?]
      split <;> rfl
  | _ => rfl

/-- What is done by somebody with no notice on its way is told by the notice that it has on
its way afterwards. -/
theorem Follows.notice? {d : Deed} (h : Follows place p d q)
    (hd : d.who? = some who ∨ d.who? = none) (hn : p.notice? place who = none) :
    q.notice? place who = (p.channel place).handed? d := by
  have hr : q.errand place = ((p.channel place).apply d).errand := congrArg Channel.errand h.result
  rw [Pool.notice?, hr]
  obtain hd | hd := hd
  · rw [Channel.errand_apply_self hd]
    rfl
  · cases d with
    | nothing | keep text => exact hn
    | _ => cases hd

theorem handed?_eq {x : Step} (possible : x.before.move? depth x.move = some x.after)
    (hp : x.before.Placed place) :
    x.handed? place = (x.before.channel place).handed? (x.before.deed place x.move) := by
  have hf := follows_move possible hp
  obtain ⟨p, m, q⟩ := x
  dsimp only at hf possible ⊢
  unfold Step.handed?
  cases moves_of_possible possible with
  | begin created begins =>
    rw [deed_begin created] at hf ⊢
    have hs := p.session.starts_beginDeed
    exact hf.notice? (hs _ place _).who? (by simp [Pool.notice?, errand_of_created created])
  | @wake who number next outcome paused ended =>
    refine hf.notice? ?_ ?_
    · simp only [deed, paused]
      split
      · split
        · exact (p.session.starts_openDeed who place _ _).who?
        · exact .inr rfl
      · exact .inr rfl
    · rw [notice?_of_pause place paused]
      cases next with
      | finish => rfl
      | openBuffer other text =>
        rw [Pause.errand?]
        split <;> rfl
  | grant paused holds =>
    refine hf.notice? ?_ ?_
    · simp only [deed, paused]
      split
      · exact .inl rfl
      · exact .inr rfl
    · rw [notice?_of_pause place paused, Pause.errand?]
      split <;> rfl
  | sent isDelivered outcome paused =>
    obtain hd | hd | hd := deed_sent place paused isDelivered outcome <;> rw [hd] <;> rfl
  | _ => rfl

/-- A notice that is on its way can come to its end. -/
theorem exists_sent (depth : Nat) {n : Notice} (h : p.notice? place who = some n)
    (isDelivered : Bool) :
    ∃ q, p.move? depth (.sent who isDelivered (.ok ())) = some q := by
  obtain ⟨e, he, hn⟩ := Option.bind_eq_some_iff.mp h
  obtain ⟨pause, hp, hq⟩ := Option.bind_eq_some_iff.mp he
  cases pause with
  | notice m next => exact ⟨_, by simp only [move?, hp]; rfl⟩
  | answer request seconds next => cases hq
  | exchange number next =>
    cases next with
    | finish => cases hq
    | openBuffer other text =>
      rw [Pause.errand?] at hq
      split at hq
      · cases hq
        cases hn
      · cases hq
  | turn other next =>
    rw [Pause.errand?] at hq
    split at hq
    · cases hq
      cases hn
    · cases hq

/-! ## The start -/

theorem placed_start (place : Nat) (settings : Settings) :
    (ofSession (.start settings)).Placed place := by
  intro who he
  exact absurd rfl he

theorem channel_start (place : Nat) (settings : Settings) :
    (ofSession (.start settings)).channel place = ⟨0, .empty, .idle, fun _ => none⟩ := rfl

theorem sound_start (place : Nat) (settings : Settings) :
    ((ofSession (.start settings)).channel place).Sound := by
  rw [channel_start]
  exact Channel.sound_of_idle rfl fun _ => rfl

end Pool
end EditorLink
