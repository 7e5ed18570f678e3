import EditorLink.Proofs.Session.Agreement
import EditorLink.Proofs.Session.Opening

/-!
# Changes in turn

Whoever wants to send a change of an open document makes its events at once and waits until
nobody else sends. What waits is in the queue in the order in which it was made, so the
changes are handed over one at a time in this order, each once, and their versions count
them. Whether they arrive makes no difference.
-/
namespace EditorLink

/-- The events that an operation has still to send. -/
def Errand.queued? : Errand → Option (List ChangeEvent)
  | .queue events => some events
  | _ => none

/-- The events that an operation has sent and of which it waits to hear. -/
def Errand.sending? : Errand → Option (List ChangeEvent)
  | .changing n => n.batch?
  | _ => none

/-- The events that are made with a deed. -/
def Deed.made? : Deed → Option (List ChangeEvent)
  | .call _ _ _ events => some events
  | _ => none

/-- The events of the change that comes to its end with a deed. -/
def Deed.ended? : Deed → Option (List ChangeEvent)
  | .sent _ n _ => n.batch?
  | _ => none

/-- The version and the events of a notice about a change. -/
def Notice.change? : Notice → Option (Nat × List ChangeEvent)
  | .changed _ version events => some (version, events)
  | _ => none

namespace Channel

/-- The changes that wait for their turn. -/
def queued (c : Channel) : List (List ChangeEvent) :=
  c.order.filterMap fun who => (c.errand who).bind Errand.queued?

/-- The change that is on its way. -/
def sending? (c : Channel) : Option (List ChangeEvent) :=
  c.turns.holder.bind fun who => (c.errand who).bind Errand.sending?

/-- The change that is handed over with a deed, with its version. -/
def change? (c : Channel) (d : Deed) : Option (Nat × List ChangeEvent) :=
  (c.handed? d).bind Notice.change?

section
variable {c : Channel} {d : Deed} {who : Nat}

/-- What has not arrived is on its way or in the queue. -/
theorem Sound.pending_eq (h : c.Sound) : c.pending = c.sending?.toList ++ c.queued := by
  have hwait (who : Nat) (hw : who ∈ c.turns.waiting) :
      c.batch? who = (c.errand who).bind Errand.queued? := by
    obtain ⟨events, he⟩ := h.queued who hw
    rw [batch?_of_errand he, he]
    rfl
  cases hh : c.turns.holder with
  | none => simp [pending, Channel.queued, sending?, order, hh, h.idle hh]
  | some who =>
    have ho : c.order = who :: c.turns.waiting := by rw [order, hh]; rfl
    obtain ⟨events, hb⟩ := h.busy who (by simp [ho])
    obtain ⟨e, he, hbatch⟩ := Option.bind_eq_some_iff.mp hb
    have hrest : c.turns.waiting.filterMap c.batch? =
        c.turns.waiting.filterMap fun who => (c.errand who).bind Errand.queued? :=
      List.filterMap_congr hwait
    rw [pending, Channel.queued, sending?, ho, hh, List.filterMap_cons_some hb, hrest]
    cases e with
    | queue => cases hbatch; simp [he, Errand.queued?, Errand.sending?]
    | changing n => simp [he, Errand.queued?, Errand.sending?, show n.batch? = _ from hbatch]
    | await | opening => cases hbatch

/-- What is made joins those that have not arrived, and what comes to its end was the first
of them. -/
theorem Sound.pending_apply (h : c.Sound) (ha : c.Allows d) :
    c.pending ++ d.made?.toList = d.ended?.toList ++ (c.apply d).pending := by
  cases d with
  | call who uri text events => exact (h.call ha.1 uri text events).2.symm
  | grant who uri events =>
    rw [(h.grant ha.1 ha.2 uri).2]
    exact List.append_nil _
  | sent who n isDelivered =>
    obtain ⟨events, hn, hp⟩ := (h.sent ha isDelivered).2
    rw [hp]
    simp [Deed.ended?, Deed.made?, hn]
  | _ =>
    rw [(h.rest ha rfl).2]
    exact List.append_nil _

/-- Where a deed is about no change, nobody in the queue is concerned. -/
theorem Sound.errand_apply_of_mem (h : c.Sound) (ha : c.Allows d) (hd : d.isChange = false)
    (hw : who ∈ c.order) : (c.apply d).errand who = c.errand who := by
  refine errand_apply_of_ne fun hwho => ?_
  obtain ⟨events, hb⟩ := h.busy who hw
  obtain ⟨e, he, hbatch⟩ := Option.bind_eq_some_iff.mp hb
  cases d with
  | nothing | keep => cases hwho
  | giveUp =>
    cases hwho
    obtain hn | ⟨text, hn⟩ := ha
    · simp [hn] at he
    · rw [hn, Option.some.injEq] at he
      subst he
      cases hbatch
  | await | tell | told =>
    cases hwho
    simp_all [Allows, Errand.batch?]
  | call | grant | sent => cases hd

theorem turns_apply_of_not_isChange (c : Channel) (hd : d.isChange = false) :
    (c.apply d).turns = c.turns := by
  cases d <;> first | rfl | cases hd

theorem sending?_of_errand {e : Errand} (hh : c.turns.holder = some who)
    (he : c.errand who = some e) : c.sending? = e.sending? := by
  rw [sending?, hh, Option.bind_some, he, Option.bind_some]

theorem change?_of_not_isChange (c : Channel) (hd : d.isChange = false) : c.change? d = none := by
  cases d <;> first | rfl | cases hd

theorem ended?_of_not_isChange (hd : d.isChange = false) : d.ended? = none := by
  cases d <;> first | rfl | cases hd

/-- What is handed over goes on its way, where there is nothing else, and comes to its end. -/
def Flows (c : Channel) (d : Deed) : Prop :=
  c.sending?.toList ++ ((c.change? d).map Prod.snd).toList =
    d.ended?.toList ++ (c.apply d).sending?.toList

theorem flows_rest (h : c.Sound) (ha : c.Allows d) (hd : d.isChange = false) : c.Flows d := by
  have hs : (c.apply d).sending? = c.sending? := by
    unfold sending?
    rw [turns_apply_of_not_isChange c hd]
    cases hh : c.turns.holder with
    | none => rfl
    | some who =>
      rw [Option.bind_some, Option.bind_some, h.errand_apply_of_mem ha hd (by simp [order, hh])]
  rw [Flows, change?_of_not_isChange c hd, ended?_of_not_isChange hd, hs]
  exact List.append_nil _

/-- Who finds nobody sending sends at once, and otherwise what is on its way stays so. -/
theorem flows_call (h : c.Sound) (he : c.errand who = none) (uri : String) (text : Document)
    (events : List ChangeEvent) : c.Flows (.call who uri text events) := by
  cases hh : c.turns.holder with
  | none =>
    have hb : c.sending? = none := by rw [sending?, hh]; rfl
    have hc : c.change? (.call who uri text events) = some (c.version + 1, events) := by
      simp [change?, handed?, next?, hh, Errand.notice?, Notice.change?]
    have hs : (c.apply (.call who uri text events)).sending? = some events := by
      simp [sending?, apply, hh, Turns.enter, sendNow, assign, Errand.sending?, Notice.batch?]
    rw [Flows, hb, hc, hs]
    rfl
  | some holder =>
    have hne : holder ≠ who := by
      rintro rfl
      have hm : holder ∈ c.order := by simp [order, hh]
      exact h.not_mem_order (by simp [he]) hm
    have hc : c.change? (.call who uri text events) = none := by
      simp [change?, handed?, next?, hh, Errand.notice?]
    have hs : (c.apply (.call who uri text events)).sending? = c.sending? := by
      simp [sending?, apply, hh, Turns.enter, assign, Function.update_of_ne hne]
    rw [Flows, hc, hs]
    exact List.append_nil _

theorem flows_grant {events : List ChangeEvent} (he : c.errand who = some (.queue events))
    (hh : c.turns.holder = some who) (uri : String) : c.Flows (.grant who uri events) := by
  have hb : c.sending? = none := sending?_of_errand hh he
  have hs : (c.apply (.grant who uri events)).sending? = some events := by
    simp [sending?, apply, hh, sendNow, assign, Errand.sending?, Notice.batch?]
  rw [Flows, hb, hs]
  rfl

/-- The turn passes to somebody who has not sent anything yet. -/
theorem flows_sent (h : c.Sound) {n : Notice} (he : c.errand who = some (.changing n))
    (isDelivered : Bool) : c.Flows (.sent who n isDelivered) := by
  have hh := h.holder_of_changing he
  have hb : c.sending? = n.batch? := sending?_of_errand hh he
  have hs : (c.apply (.sent who n isDelivered)).sending? = none := by
    cases hw : c.turns.waiting.head? with
    | none => simp [sending?, apply, assign, Turns.leave, hw]
    | some next =>
      have hm := List.mem_of_mem_head? hw
      obtain ⟨events, hn⟩ := h.queued next hm
      have hne : next ≠ who := by
        rintro rfl
        exact h.waiting_of_holder hh hm
      simp [sending?, apply, assign, Turns.leave, hw, Function.update_of_ne hne, hn,
        Errand.sending?]
  rw [Flows, hb, hs]
  rfl

theorem flows_of_allows (h : c.Sound) (ha : c.Allows d) : c.Flows d := by
  by_cases hd : d.isChange = false
  · exact flows_rest h ha hd
  · cases d with
    | call who uri text events => exact flows_call h ha.1 uri text events
    | grant who uri events => exact flows_grant ha.1 ha.2 uri
    | sent who n isDelivered => exact flows_sent h ha isDelivered
    | _ => exact absurd rfl hd

/-- A change is handed over only when no other one is on its way. -/
theorem sending?_of_change? (h : c.Flows d) {change : Nat × List ChangeEvent}
    (hc : c.change? d = some change) : c.sending? = none := by
  have he : d.ended? = none := by
    cases d with
    | sent => cases hc
    | _ => rfl
  rw [Flows, hc, he] at h
  have hlen := congrArg List.length h
  cases hs : c.sending? with
  | none => rfl
  | some events => cases hs' : (c.apply d).sending? <;> simp [hs, hs'] at hlen

/-- What is made joins the queue, and what is handed over was the first of it. -/
theorem Sound.queued_apply (h : c.Sound) (ha : c.Allows d) :
    c.queued ++ d.made?.toList =
      ((c.change? d).map Prod.snd).toList ++ (c.apply d).queued := by
  have hp := h.pending_apply ha
  have hs := flows_of_allows h ha
  rw [Flows] at hs
  rw [h.pending_eq, (h.apply ha).pending_eq, ← List.append_assoc, ← hs, List.append_assoc,
    List.append_assoc, List.append_cancel_left_eq] at hp
  exact hp

/-- The version counts the changes that are handed over, unless the document is opened. -/
theorem version_apply (c : Channel) (hd : (c.handed? d).any Notice.isOpening = false) :
    (c.apply d).version = c.version + (c.change? d).isSome.toNat := by
  rw [isOpening_handed?] at hd
  cases d with
  | call who uri text events =>
    cases hh : c.turns.holder <;>
      simp [apply, change?, handed?, next?, hh, sendNow, assign, Errand.notice?, Notice.change?]
  | tell => cases hd
  | _ => rfl

/-- A change that is handed over has the next version. -/
theorem version_of_change? {version : Nat} {events : List ChangeEvent}
    (h : c.change? d = some (version, events)) : version = c.version + 1 := by
  cases d with
  | call who uri text made =>
    cases hh : c.turns.holder <;>
      simp_all [change?, handed?, next?, Errand.notice?, Notice.change?]
  | grant => cases h; rfl
  | _ => cases h

end
end Channel

namespace Session

/-- Whether an operation makes a change of the document if it can. -/
def calls (s : Session) (place : Nat) : Operation → Bool
  | .update name text _ _ => s.find? name = some place ∧ text ≠ (s.buffer place).text
  | .synchronize name _ _ | .refresh name | .sendEvents name _ => s.find? name = some place
  | _ => false

/-- The events of the change of a document that an operation makes. -/
def made? (s : Session) (place : Nat) : Operation → Option (List ChangeEvent)
  | .update name text splices _ =>
    if s.find? name = some place ∧ text ≠ (s.buffer place).text then
      (eventsOf (s.buffer place).options.incremental (s.buffer place).text text splices).toOption
    else none
  | .synchronize name text splices =>
    if s.find? name = some place then
      (eventsOf (s.buffer place).options.incremental (s.buffer place).text text splices).toOption
    else none
  | .refresh name =>
    if s.find? name = some place then some [.whole (s.buffer place).text.text] else none
  | .sendEvents name events => if s.find? name = some place then some events else none
  | _ => none

/-- The splices that come with an operation lie inside the text of the document, which is not
too long for positions to name its places. -/
def Inside (s : Session) (place : Nat) : Operation → Prop
  | .update _ _ (some splices) _ | .synchronize _ _ (some splices) =>
    (s.buffer place).text.length ≤ Failure.maxCoordinate ∧
      ∀ c ∈ splices, (0 ≤ c.start ∧ c.start ≤ (s.buffer place).text.length) ∧
        0 ≤ c.stop ∧ c.stop ≤ (s.buffer place).text.length
  | _ => True

section
variable {s : Session} {who place : Nat}

theorem exists_eventsOf (incremental : Bool) (old new : Document) (splices : Option (List Splice))
    (h : ∀ batch, splices = some batch → old.length ≤ Failure.maxCoordinate ∧
      ∀ c ∈ batch, (0 ≤ c.start ∧ c.start ≤ old.length) ∧ 0 ≤ c.stop ∧ c.stop ≤ old.length) :
    ∃ events, eventsOf incremental old new splices = .ok events := by
  unfold eventsOf
  split
  · obtain ⟨hm, hin⟩ := h _ rfl
    exact Splice.exists_events old _ hm hin
  · exact ⟨_, rfl⟩

/-- Only splices that lie outside the text keep an operation from making a change. -/
theorem made?_isSome {operation : Operation} (hc : s.calls place operation = true)
    (hi : s.Inside place operation) : (s.made? place operation).isSome = true := by
  have hmade {text : Document} {splices : Option (List Splice)}
      (h : ∀ batch, splices = some batch →
        (s.buffer place).text.length ≤ Failure.maxCoordinate ∧
        ∀ c ∈ batch, (0 ≤ c.start ∧ c.start ≤ (s.buffer place).text.length) ∧
          0 ≤ c.stop ∧ c.stop ≤ (s.buffer place).text.length) :
      (eventsOf (s.buffer place).options.incremental (s.buffer place).text text
        splices).toOption.isSome = true := by
    obtain ⟨events, he⟩ := exists_eventsOf _ _ text splices h
    rw [he]
    rfl
  cases operation with
  | update name text splices cursor =>
    have hn : s.find? name = some place ∧ text ≠ (s.buffer place).text := by simpa [calls] using hc
    rw [made?, if_pos hn]
    refine hmade ?_
    rintro batch rfl
    exact hi
  | synchronize name text splices =>
    have hn : s.find? name = some place := by simpa [calls] using hc
    rw [made?, if_pos hn]
    refine hmade ?_
    rintro batch rfl
    exact hi
  | refresh name | sendEvents name events =>
    have hn : s.find? name = some place := by simpa [calls] using hc
    rw [made?, if_pos hn]
    rfl
  | _ => cases hc

/-- On a ready session the change of an open document that an operation makes is sent or
queued. -/
theorem made?_beginDeed (who : Nat) (operation : Operation) (hr : s.isReady = true)
    (ho : (s.buffer place).isOpen = true) :
    (s.beginDeed who place operation).made? = s.made? place operation := by
  have hsend (text : Document) (events : List ChangeEvent) :
      (s.sendDeed who place text events).made? = some events := by
    simp [sendDeed, hr, ho, Deed.made?]
  have hsync (text : Document) (splices : Option (List Splice)) :
      (s.synchronizeDeed who place text splices).made? =
        (eventsOf (s.buffer place).options.incremental (s.buffer place).text text
          splices).toOption := by
    unfold synchronizeDeed
    split <;> rename_i he <;> rw [he]
    · rfl
    · exact hsend _ _
  have hif {P : Prop} [Decidable P] {d : Deed} {made : Option (List ChangeEvent)}
      (h : d.made? = made) :
      (if P then d else .nothing).made? = if P then made else none := by
    split
    · exact h
    · rfl
  cases operation with
  | openBuffer name text =>
    unfold beginDeed openDeed
    dsimp only
    split
    · split
      · rfl
      · split <;> rfl
    · rfl
  | update name text splices cursor => exact hif (hsync text splices)
  | synchronize name text splices => exact hif (hsync text splices)
  | refresh name => exact hif (hsend _ _)
  | sendEvents name events => exact hif (hsend _ events)
  | _ => rfl

end
end Session

namespace Pool
open Session

namespace Step
variable (place : Nat) (x : Step)

/-- Whether an operation begins that makes a change of the document if it can. -/
def calls : Bool := x.begun?.any (x.before.session.calls place)

/-- The splices that come with an operation that begins lie inside the text of the document. -/
def Inside : Prop := ∀ operation ∈ x.begun?, x.before.session.Inside place operation

/-- The events of the change of a document that is made in a step. -/
def made? : Option (List ChangeEvent) := x.begun?.bind (x.before.session.made? place)

/-- The change of a document that is handed over in a step, with its version. -/
def change? : Option (Nat × List ChangeEvent) := (x.handed? place).bind Notice.change?

/-- The events of the change of a document that comes to its end in a step. -/
def ended? : Option (List ChangeEvent) := (x.settled? place).bind fun n => n.1.batch?

end Step

/-- The changes of a document that are made, in turn. -/
def made (place : Nat) (steps : List Step) : List (List ChangeEvent) :=
  steps.filterMap (Step.made? place)

/-- The changes of a document that are handed over, in turn. -/
def changes (place : Nat) (steps : List Step) : List (Nat × List ChangeEvent) :=
  steps.filterMap (Step.change? place)

/-- The changes of a document that have come to their end, in turn. -/
def ended (place : Nat) (steps : List Step) : List (List ChangeEvent) :=
  steps.filterMap (Step.ended? place)

/-- The changes of an open document leave in turn. -/
structure InTurn (place : Nat) (steps : List Step) (p : Pool) : Prop where
  /-- They are handed over as they were made, and the others are in the queue. -/
  made_eq : made place steps = (changes place steps).map Prod.snd ++ (p.channel place).queued
  versions_eq : (changes place steps).map Prod.fst = List.range' 2 (changes place steps).length
  /-- They come to their end as they were handed over, but for one that is on its way. -/
  sent_eq : (changes place steps).map Prod.snd = ended place steps ++ (p.channel place).sending?.toList
  /-- One is handed over only when all before it have come to their end. -/
  alone : Along (fun past x => (x.change? place).isSome = true →
    (changes place past).length = (ended place past).length) [] steps

/-- What a step does to the changes of an open document. -/
structure Step.Passes (place : Nat) (x : Step) : Prop where
  queued : (x.before.channel place).queued ++ (x.made? place).toList =
    ((x.change? place).map Prod.snd).toList ++ (x.after.channel place).queued
  sending : (x.before.channel place).sending?.toList ++ ((x.change? place).map Prod.snd).toList =
    (x.ended? place).toList ++ (x.after.channel place).sending?.toList
  version : (x.after.channel place).version =
    (x.before.channel place).version + (x.change? place).isSome.toNat
  next : ∀ {version events}, x.change? place = some (version, events) →
    version = (x.before.channel place).version + 1
  free : ∀ {change}, x.change? place = some change → (x.before.channel place).sending? = none

/-- The document was not opened, and no change of it was made. -/
structure Unopened (place : Nat) (p : Pool) : Prop where
  placed : p.Placed place
  sound : (p.channel place).Sound
  named : (p.channel place).Named
  version_eq : (p.channel place).version = 0
  order_eq : (p.channel place).order = []

/-- The document was opened on a ready session, and its changes leave in turn. -/
structure Flowing (place : Nat) (steps : List Step) (p : Pool) : Prop
    extends InTurn place steps p where
  placed : p.Placed place
  sound : (p.channel place).Sound
  named : (p.channel place).Named
  ready : p.session.isReady = true
  version_eq : (p.channel place).version = (changes place steps).length + 1

section
variable {depth place : Nat} {settings : Settings} {p q : Pool} {steps : List Step} {m : Move}

theorem unopened_start (place : Nat) (settings : Settings) :
    Unopened place (ofSession (.start settings)) where
  placed := placed_start place settings
  sound := sound_start place settings
  named who n he := by cases he
  version_eq := rfl
  order_eq := rfl

theorem unopened_move (h : Unopened place p) (possible : p.move? depth m = some q)
    (hx : Step.handsOpening place ⟨p, m, q⟩ = false) : Unopened place q := by
  have hf := follows_move possible h.placed
  have hh := handed?_eq (x := ⟨p, m, q⟩) possible h.placed
  rw [Step.handsOpening, hh] at hx
  dsimp only at hx
  obtain ⟨hq, ha, hplaced⟩ := hf
  have hv := Channel.version_apply _ hx
  generalize p.deed place m = d at hq ha hx hv
  have hd : d.isChange = false := by
    cases d with
    | call => exact absurd h.version_eq ha.2
    | grant who uri events =>
      have ho := h.order_eq
      rw [Channel.order, ha.2] at ho
      cases ho
    | sent who n isDelivered =>
      have ho := h.order_eq
      rw [Channel.order, h.sound.holder_of_changing ha] at ho
      cases ho
    | _ => rfl
  refine ⟨hplaced, hq ▸ h.sound.apply ha, hq ▸ h.named.apply d, ?_, ?_⟩
  · rw [hq, hv, h.version_eq, Channel.change?_of_not_isChange _ hd]
    rfl
  · rw [hq, Channel.order, Channel.turns_apply_of_not_isChange _ hd]
    exact h.order_eq

theorem flowing_opened (h : Unopened place p) (possible : p.move? depth m = some q)
    (hx : Step.handsOpening place ⟨p, m, q⟩ = true) (hr : q.session.isReady = true) :
    Flowing place [] q := by
  have hh := handed?_eq (x := ⟨p, m, q⟩) possible h.placed
  rw [Step.handsOpening, hh, Channel.isOpening_handed?] at hx
  dsimp only at hx
  obtain ⟨hq, ha, hplaced⟩ := follows_move possible h.placed
  have hsound := hq ▸ h.sound.apply ha
  have hnamed := hq ▸ h.named.apply (p.deed place m)
  generalize p.deed place m = d at hq hx
  cases d with
  | tell who uri language text =>
    have ho : (q.channel place).order = [] := by
      rw [hq]
      exact h.order_eq
    have hholder : (q.channel place).turns.holder = none := by
      simpa using (List.append_eq_nil_iff.mp ho).1
    have hs : (q.channel place).sending? = none := by
      rw [Channel.sending?, hholder]
      rfl
    have hqueued : (q.channel place).queued = [] := by
      rw [Channel.queued, ho]
      rfl
    have hv : (q.channel place).version = 1 := by
      rw [hq]
      rfl
    exact {
      made_eq := by rw [hqueued]; rfl
      versions_eq := rfl
      sent_eq := by rw [hs]; rfl
      alone := trivial
      placed := hplaced
      sound := hsound
      named := hnamed
      ready := hr
      version_eq := hv }
  | _ => cases hx

theorem made?_openDeed (s : Session) (who : Nat) (text : Document)
    (outcome : Option (Except Failure Unit)) : (s.openDeed who place text outcome).made? = none := by
  unfold openDeed
  split <;> rfl

theorem made?_deed (possible : p.move? depth m = some q) (hr : p.session.isReady = true)
    (ho : (p.session.buffer place).isOpen = true) :
    (p.deed place m).made? = Step.made? place ⟨p, m, q⟩ := by
  cases moves_of_possible possible with
  | begin created begins =>
    rw [deed_begin created, made?_beginDeed _ _ hr ho, Step.made?, begun?_begin _ created]
    rfl
  | wake paused ended =>
    simp only [deed, paused]
    split
    · split
      · exact made?_openDeed _ _ _ _
      · rfl
    · rfl
  | grant paused holds =>
    simp only [deed, paused]
    split <;> rfl
  | sent isDelivered outcome paused =>
    obtain hd | hd | hd := deed_sent place paused isDelivered outcome <;> rw [hd] <;> rfl
  | _ => rfl

theorem ended?_deed (possible : p.move? depth m = some q) (hp : p.Placed place)
    (hn : (p.channel place).Named) : Step.ended? place ⟨p, m, q⟩ = (p.deed place m).ended? := by
  have ha := (follows_move possible hp).allowed
  have hs := settled?_eq place (x := ⟨p, m, q⟩) possible
  rw [Step.ended?, hs]
  dsimp only
  generalize p.deed place m = d at ha
  cases d with
  | told who n isDelivered =>
    have ho := hn who n ha
    cases n <;> first | rfl | cases ho
  | _ => rfl

theorem made_concat (place : Nat) (steps : List Step) (x : Step) :
    made place (steps ++ [x]) = made place steps ++ (x.made? place).toList :=
  filterMap_concat _ steps x

theorem changes_concat (place : Nat) (steps : List Step) (x : Step) :
    changes place (steps ++ [x]) = changes place steps ++ (x.change? place).toList :=
  filterMap_concat _ steps x

theorem ended_concat (place : Nat) (steps : List Step) (x : Step) :
    ended place (steps ++ [x]) = ended place steps ++ (x.ended? place).toList :=
  filterMap_concat _ steps x

theorem passes_move (possible : p.move? depth m = some q) (hp : p.Placed place)
    (hsound : (p.channel place).Sound) (hnamed : (p.channel place).Named)
    (hr : p.session.isReady = true) (hv : (p.channel place).version ≠ 0)
    (hx : Step.handsOpening place ⟨p, m, q⟩ = false) : Step.Passes place ⟨p, m, q⟩ := by
  obtain ⟨hresult, ha, -⟩ := follows_move possible hp
  have hmade := made?_deed possible hr (version_channel_ne_zero.mp hv)
  have hended := ended?_deed possible hp hnamed
  have hh := handed?_eq (x := ⟨p, m, q⟩) possible hp
  have hchange : Step.change? place ⟨p, m, q⟩ = (p.channel place).change? (p.deed place m) := by
    rw [Step.change?, hh]
    rfl
  have hflows := Channel.flows_of_allows hsound ha
  rw [Step.handsOpening, hh] at hx
  constructor
  · rw [← hmade, hchange, hresult]
    exact hsound.queued_apply ha
  · rw [hended, hchange, hresult]
    exact hflows
  · rw [hchange, hresult]
    exact Channel.version_apply _ hx
  · rw [hchange]
    exact Channel.version_of_change?
  · rw [hchange]
    exact Channel.sending?_of_change? hflows

/-- Every move that does not close the session and does not open the document again keeps
the changes in turn. -/
theorem flowing_move (h : Flowing place steps p) (possible : p.move? depth m = some q)
    (hx : Step.handsOpening place ⟨p, m, q⟩ = false) (hq : q.session.phase ≠ .closed) :
    Flowing place (steps ++ [⟨p, m, q⟩]) q := by
  obtain ⟨hresult, ha, hplaced⟩ := follows_move possible h.placed
  have hv : (p.channel place).version ≠ 0 := by simp [h.version_eq]
  have hpass := passes_move possible h.placed h.sound h.named h.ready hv hx
  generalize hy : (⟨p, m, q⟩ : Step) = y at hpass
  have hp : y.before = p := by rw [← hy]
  have hq' : y.after = q := by rw [← hy]
  obtain ⟨hqueued, hsending, hversion, hnext, hfree⟩ := hpass
  rw [hp] at hqueued hsending hversion hnext hfree
  rw [hq'] at hqueued hsending hversion
  have hlen := congrArg List.length h.sent_eq
  refine {
    made_eq := ?_
    versions_eq := ?_
    sent_eq := ?_
    alone := along_concat.mpr ⟨h.alone, fun hc => ?_⟩
    placed := hplaced
    sound := hresult ▸ h.sound.apply ha
    named := hresult ▸ h.named.apply _
    ready := isReady_move possible h.ready hq
    version_eq := ?_ }
  · rw [made_concat, changes_concat, h.made_eq, List.append_assoc, hqueued]
    cases y.change? place <;> simp
  · rw [changes_concat]
    cases hc : y.change? place with
    | none => simpa using h.versions_eq
    | some change =>
      have hone := hnext hc
      rw [h.version_eq] at hone
      rw [Option.toList_some, List.map_append, h.versions_eq, List.length_append,
        List.length_singleton, List.range'_1_concat, List.map_singleton, hone]
      congr 2
      omega
  · rw [changes_concat, ended_concat, List.map_append, h.sent_eq, List.append_assoc,
      List.append_assoc, ← hsending]
    cases y.change? place <;> rfl
  · obtain ⟨change, hc⟩ := Option.isSome_iff_exists.mp hc
    simpa [hfree hc] using hlen
  · rw [hversion, h.version_eq, changes_concat, List.length_append]
    cases y.change? place <;> simp

theorem unopened_run (run : Run depth (ofSession (.start settings)) steps q)
    (h : ∀ x ∈ steps, x.handsOpening place = false) : Unopened place q :=
  run.invariant (P := Unopened place) (unopened_start place settings) fun x hx hb =>
    unopened_move hb (run.step_possible hx) (h x hx)

theorem flowing_run (hp : Flowing place [] p) (run : Run depth p steps q)
    (h : ∀ x ∈ steps, x.handsOpening place = false ∧ x.after.session.phase ≠ .closed) :
    Flowing place steps q := by
  induction run with
  | start => exact hp
  | next run possible ih =>
    have hq := ih fun x hx => h x (List.mem_append_left _ hx)
    obtain ⟨hx, hc⟩ := h _ (List.mem_append_right _ (List.mem_singleton_self _))
    exact flowing_move hq possible hx hc

/-- Of a document that is opened once on a ready session that stays open, the changes leave
in the order in which they are made, one at a time, each once and with the next version,
however many wait and whatever becomes of those that were sent; and every call makes one,
unless its splices lie outside the text. -/
theorem changes_in_turn {before after : List Step} {x : Step}
    (run : Run depth (ofSession (.start settings)) (before ++ x :: after) q)
    (opens : x.handsOpening place = true)
    (once : ∀ y ∈ before ++ after, y.handsOpening place = false)
    (ready : x.after.session.isReady = true)
    (unclosed : ∀ y ∈ after, y.after.session.phase ≠ .closed) :
    InTurn place after q ∧
      ∀ y ∈ after, y.calls place = true → y.Inside place → (y.made? place).isSome = true := by
  obtain ⟨hbefore, hafter⟩ := run.at_step
  have possible := run.step_possible (x := x) (by simp)
  have hun := unopened_run hbefore fun y hy => once y (List.mem_append_left _ hy)
  have hopened := flowing_opened hun possible opens ready
  constructor
  · refine (flowing_run hopened hafter fun y hy => ?_).toInTurn
    exact ⟨once y (List.mem_append_right _ hy), unclosed y hy⟩
  · intro y _ hc hi
    cases hb : y.begun? with
    | none => simp [Step.calls, hb] at hc
    | some operation =>
      rw [Step.calls, hb] at hc
      rw [Step.made?, hb]
      exact made?_isSome hc (hi operation hb)

end

/-- After a document was opened three changes of it are made, of which the first is lost and
the last still waits. -/
def typingAhead : List Move :=
  opening ++ [.submit (.synchronize "a" (.ofText "\nb\nce".toList)
      (some [⟨0, 1, "\n".toList⟩, ⟨4, 5, "e".toList⟩])), .submit (.refresh "a"),
    .submit (.sendEvents "a" []), .begin 1, .begin 2, .begin 3,
    .sent 1 false (.error (.unknownBuffer "a")), .grant 2, .sent 2 true (.ok ())]

theorem changes_in_turn_typingAhead :
    ∃ q, (ofSession (.start .standard)).run? 0 typingAhead = some q ∧
      InTurn 0 ((trail 0 (ofSession (.start .standard)) typingAhead).drop 7) q := by
  let steps := trail 0 (ofSession (.start .standard)) typingAhead
  have hsteps : steps = steps.take 6 ++ (steps.drop 6).head (by decide) :: steps.drop 7 := rfl
  have run : ∃ q, (ofSession (.start .standard)).run? 0 typingAhead = some q ∧
      Run 0 (ofSession (.start .standard)) steps q := ⟨_, rfl, run_trail rfl⟩
  obtain ⟨q, hq, run⟩ := hsteps ▸ run
  exact ⟨q, hq, (changes_in_turn run (by decide) (by decide) rfl (by decide)).1⟩

end Pool
end EditorLink
