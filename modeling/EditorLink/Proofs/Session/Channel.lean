import EditorLink.Session.Pool
import Mathlib.Data.List.Nodup
import Mathlib.Logic.Function.Basic
import Mathlib.Tactic.Common

/-!
# The channel of a buffer

What a pool does for one document is a small machine of its own: the version and the
text of the document, the queue of those who want to send, and for every operation what
it has still to do for the document. Whoever holds the turn has sent a change or may send
one, whoever waits has one to send, and nobody else has: changes leave one at a time in
the order in which they were made.
-/
namespace EditorLink

/-- What an operation has still to do for a document. -/
inductive Errand where
  /-- It waits for the handshake, in order to tell the server this text. -/
  | await (text : Document)
  /-- It has told the server the text of the document. -/
  | opening (notice : Notice)
  /-- It waits for its turn to send a change. -/
  | queue (events : List ChangeEvent)
  /-- It has sent a change. -/
  | changing (notice : Notice)

/-- The notice that an operation has handed over. -/
def Errand.notice? : Errand → Option Notice
  | .opening n | .changing n => some n
  | _ => none

/-- What a pool holds of one document. -/
@[ext]
structure Channel where
  version : Nat
  text : Document
  turns : Turns
  /-- What each operation has still to do, by its number. -/
  errand : Nat → Option Errand

/-- What a move does for one document. -/
inductive Deed where
  | nothing
  | await (who : Nat) (text : Document)
  | giveUp (who : Nat)
  /-- The server is told the text of the document. -/
  | tell (who : Nat) (uri language : String) (text : Document)
  | told (who : Nat) (notice : Notice) (isDelivered : Bool)
  /-- A new text is kept, but nothing will be sent. -/
  | keep (text : Document)
  /-- A text is kept, and a change is sent or queued. -/
  | call (who : Nat) (uri : String) (text : Document) (events : List ChangeEvent)
  /-- A queued change is sent. -/
  | grant (who : Nat) (uri : String) (events : List ChangeEvent)
  | sent (who : Nat) (notice : Notice) (isDelivered : Bool)

namespace Deed

/-- Who does a deed. -/
def who? : Deed → Option Nat
  | .nothing | .keep _ => none
  | .await who _ | .giveUp who | .tell who _ _ _ | .told who _ _ | .call who _ _ _
  | .grant who _ _ | .sent who _ _ => some who

/-- The text that a document has after a deed, if that gives it one. -/
def text? : Deed → Option Document
  | .keep text | .tell _ _ _ text | .call _ _ text _ => some text
  | _ => none

/-- A deed with which an operation may start. -/
inductive Starts (who : Nat) : Deed → Prop where
  | nothing : Starts who .nothing
  | keep (text : Document) : Starts who (.keep text)
  | await (text : Document) : Starts who (.await who text)
  | giveUp : Starts who (.giveUp who)
  | tell (uri language : String) (text : Document) : Starts who (.tell who uri language text)
  | call (uri : String) (text : Document) (events : List ChangeEvent) :
    Starts who (.call who uri text events)

/-- The notice that has come to its end with a deed, and whether it has reached the server. -/
def settled? : Deed → Option (Notice × Bool)
  | .told _ n isDelivered | .sent _ n isDelivered => some (n, isDelivered)
  | _ => none

theorem Starts.who? {who : Nat} {d : Deed} (h : d.Starts who) :
    d.who? = some who ∨ d.who? = none := by
  cases h <;> simp [Deed.who?]

theorem Starts.settled? {who : Nat} {d : Deed} (h : d.Starts who) : d.settled? = none := by
  cases h <;> rfl

end Deed

namespace Channel

/-- Gives an operation something to do. -/
def assign (c : Channel) (who : Nat) (e : Option Errand) : Channel :=
  { c with errand := Function.update c.errand who e }

/-- Sends a change, with the next version. -/
def sendNow (c : Channel) (who : Nat) (uri : String) (events : List ChangeEvent) : Channel :=
  { c with version := c.version + 1 }.assign who
    (some (.changing (.changed uri (c.version + 1) events)))

/-- The channel after a deed. -/
def apply (c : Channel) : Deed → Channel
  | .nothing => c
  | .await who text => c.assign who (some (.await text))
  | .giveUp who => c.assign who none
  | .tell who uri language text =>
    { c with version := 1, text := text }.assign who
      (some (.opening (.opened uri language 1 text.text)))
  | .told who _ _ => c.assign who none
  | .keep text => { c with text := text }
  | .call who uri text events =>
    let entered := { c with text := text, turns := c.turns.enter who }
    match c.turns.holder with
    | none => entered.sendNow who uri events
    | some _ => entered.assign who (some (.queue events))
  | .grant who uri events => c.sendNow who uri events
  | .sent who _ _ => { c with turns := c.turns.leave }.assign who none

/-- When a deed may be done. -/
def Allows (c : Channel) : Deed → Prop
  | .nothing | .keep _ => True
  | .await who _ => c.errand who = none
  | .giveUp who => c.errand who = none ∨ ∃ text, c.errand who = some (.await text)
  | .tell who _ _ text => c.errand who = none ∨ c.errand who = some (.await text)
  | .told who notice _ => c.errand who = some (.opening notice)
  | .call who _ _ _ => c.errand who = none ∧ c.version ≠ 0
  | .grant who _ events => c.errand who = some (.queue events) ∧ c.turns.holder = some who
  | .sent who notice _ => c.errand who = some (.changing notice)

/-- What whoever does a deed has still to do afterwards. -/
def next? (c : Channel) : Deed → Option Errand
  | .await _ text => some (.await text)
  | .tell _ uri language text => some (.opening (.opened uri language 1 text.text))
  | .call _ uri _ events =>
    match c.turns.holder with
    | none => some (.changing (.changed uri (c.version + 1) events))
    | some _ => some (.queue events)
  | .grant _ uri events => some (.changing (.changed uri (c.version + 1) events))
  | _ => none

/-- The notice that is handed over with a deed. -/
def handed? (c : Channel) (d : Deed) : Option Notice := (c.next? d).bind Errand.notice?

theorem errand_apply_self {c : Channel} {d : Deed} {who : Nat} (h : d.who? = some who) :
    (c.apply d).errand who = c.next? d := by
  cases d with
  | nothing | keep => cases h
  | call other uri text events =>
    cases h
    simp only [apply, next?]
    split <;> simp [sendNow, assign]
  | _ =>
    cases h
    simp [apply, next?, sendNow, assign]

theorem errand_apply_of_ne {c : Channel} {d : Deed} {who : Nat} (h : d.who? ≠ some who) :
    (c.apply d).errand who = c.errand who := by
  have hne {other : Nat} (ho : some other ≠ some who) : who ≠ other := by
    rintro rfl
    exact ho rfl
  cases d with
  | nothing | keep => rfl
  | call other uri text events =>
    simp only [apply]
    split <;> exact Function.update_of_ne (hne h) _ _
  | _ => exact Function.update_of_ne (hne h) _ _

theorem text_apply (c : Channel) (d : Deed) : (c.apply d).text = d.text?.getD c.text := by
  cases d with
  | call who uri text events =>
    unfold apply
    dsimp only
    split <;> rfl
  | _ => rfl

theorem version_apply_ne_zero {c : Channel} (d : Deed) (h : c.version ≠ 0) :
    (c.apply d).version ≠ 0 := by
  cases d with
  | tell => exact Nat.one_ne_zero
  | call who uri text events =>
    unfold apply
    dsimp only
    split
    · exact Nat.succ_ne_zero _
    · exact h
  | grant => exact Nat.succ_ne_zero _
  | _ => exact h

end Channel

/-! ## The queue -/

/-- Whether an operation has a change to send, or has sent one. -/
def Errand.isChange : Errand → Bool
  | .queue _ | .changing _ => true
  | _ => false

/-- The events of a notice about a change. -/
def Notice.batch? : Notice → Option (List ChangeEvent)
  | .changed _ _ events => some events
  | _ => none

/-- Whether a notice tells the server the text of a document. -/
def Notice.isOpening : Notice → Bool
  | .opened _ _ _ _ => true
  | _ => false

/-- Whether a notice is about a change. -/
def Notice.isChange (n : Notice) : Bool := n.batch?.isSome

/-- The change that an operation has to send or has sent. -/
def Errand.batch? : Errand → Option (List ChangeEvent)
  | .queue events => some events
  | .changing n => n.batch?
  | _ => none

theorem Errand.isChange_of_batch? {e : Errand} {events : List ChangeEvent}
    (h : e.batch? = some events) : e.isChange = true := by
  cases e <;> simp_all [batch?, isChange]

/-- Whether a deed is about a change. -/
def Deed.isChange : Deed → Bool
  | .call _ _ _ _ | .grant _ _ _ | .sent _ _ _ => true
  | _ => false

namespace Channel

/-- The change that an operation has to send or has sent. -/
def batch? (c : Channel) (who : Nat) : Option (List ChangeEvent) :=
  (c.errand who).bind Errand.batch?

/-- Who sends and who waits, in turn. -/
def order (c : Channel) : List Nat := c.turns.holder.toList ++ c.turns.waiting

/-- The changes that have not arrived, in turn. -/
def pending (c : Channel) : List (List ChangeEvent) := c.order.filterMap c.batch?

/-- The queue holds exactly those who have a change to send or have sent one, each once. -/
structure Sound (c : Channel) : Prop where
  idle : c.turns.holder = none → c.turns.waiting = []
  nodup : c.order.Nodup
  queued : ∀ who ∈ c.turns.waiting, ∃ events, c.errand who = some (.queue events)
  busy : ∀ who ∈ c.order, ∃ events, c.batch? who = some events
  listed : ∀ who e, c.errand who = some e → e.isChange = true → who ∈ c.order

section Queue
variable {c d : Channel} {who : Nat}

theorem batch?_of_errand {e : Errand} (h : c.errand who = some e) : c.batch? who = e.batch? := by
  simp [batch?, h]

theorem batch?_of_none (h : c.errand who = none) : c.batch? who = none := by
  simp [batch?, h]

theorem batch?_congr (h : d.errand who = c.errand who) : d.batch? who = c.batch? who := by
  simp [batch?, h]

/-- Whoever has no change is not in the queue. -/
theorem Sound.not_mem_order (h : c.Sound) (hw : ∀ e, c.errand who = some e → e.isChange = false) :
    who ∉ c.order := by
  intro hm
  obtain ⟨events, he⟩ := h.busy who hm
  obtain ⟨e, hc, hb⟩ := Option.bind_eq_some_iff.mp he
  have ht := Errand.isChange_of_batch? hb
  rw [hw e hc] at ht
  cases ht

/-- Whoever has sent a change holds the turn. -/
theorem Sound.holder_of_changing (h : c.Sound) {n : Notice}
    (hw : c.errand who = some (.changing n)) : c.turns.holder = some who := by
  have hm := h.listed who _ hw rfl
  rw [order, List.mem_append, Option.mem_toList] at hm
  obtain hm | hm := hm
  · exact hm
  · obtain ⟨events, he⟩ := h.queued who hm
    simp [hw] at he

theorem Sound.waiting_of_holder (h : c.Sound) (hh : c.turns.holder = some who) :
    who ∉ c.turns.waiting := by
  have hn := h.nodup
  rw [order, hh, Option.toList_some, List.singleton_append, List.nodup_cons] at hn
  exact hn.1

theorem pending_congr (ho : d.order = c.order) (hb : ∀ who ∈ c.order, d.batch? who = c.batch? who) :
    d.pending = c.pending := by
  rw [pending, ho]
  exact List.filterMap_congr hb

theorem pending_eq_nil (h : ∀ who, c.errand who = none) : c.pending = [] := by
  rw [pending, List.filterMap_eq_nil_iff]
  exact fun who _ => batch?_of_none (h who)

theorem Sound.isChange_of_changing (h : c.Sound) {n : Notice}
    (hw : c.errand who = some (.changing n)) : n.isChange = true := by
  obtain ⟨events, he⟩ := h.busy who (h.listed who _ hw rfl)
  rw [batch?_of_errand hw] at he
  exact Option.isSome_iff_exists.mpr ⟨events, he⟩

theorem sound_of_idle (ht : c.turns = .idle) (he : ∀ who, c.errand who = none) : c.Sound := by
  have ho : c.order = [] := by rw [order, ht]; rfl
  refine ⟨?_, ?_, ?_, ?_, ?_⟩
  · rw [ht]
    exact fun _ => rfl
  · rw [ho]
    exact List.nodup_nil
  · rw [ht]
    exact fun _ hm => absurd hm List.not_mem_nil
  · rw [ho]
    exact fun _ hm => absurd hm List.not_mem_nil
  · intro who e hw
    cases (he who).symm.trans hw

/-- Those who have only changes to send get nothing else to do from deeds about changes. -/
theorem isChange_of_apply {deed : Deed} (hd : deed = .nothing ∨ deed.isChange = true)
    (h : ∀ who e, c.errand who = some e → e.isChange = true) (who : Nat) (e : Errand)
    (he : (c.apply deed).errand who = some e) : e.isChange = true := by
  by_cases hw : deed.who? = some who
  · rw [errand_apply_self hw] at he
    cases deed with
    | call other uri text events =>
      simp only [next?] at he
      split at he <;> cases he <;> rfl
    | grant => cases he; rfl
    | sent => cases he
    | nothing => cases hw
    | _ => cases hd with
      | inl hd => cases hd
      | inr hd => cases hd
  · rw [errand_apply_of_ne hw] at he
    exact h who e he

/-- What concerns no change leaves the queue as it is. -/
theorem Sound.aside (h : c.Sound) {e : Option Errand} (ht : d.turns = c.turns)
    (he : d.errand = Function.update c.errand who e)
    (hold : ∀ x, c.errand who = some x → x.isChange = false)
    (hnew : ∀ x, e = some x → x.isChange = false) : d.Sound ∧ d.pending = c.pending := by
  have ho : d.order = c.order := by rw [order, ht, order]
  have hn := h.not_mem_order hold
  -- nobody in the queue is concerned
  have hsame (other : Nat) (hm : other ∈ c.order) : d.errand other = c.errand other := by
    have hw : other ≠ who := by
      rintro rfl
      exact hn hm
    rw [he, Function.update_of_ne hw]
  refine ⟨⟨?_, ?_, ?_, ?_, ?_⟩, ?_⟩
  · rw [ht]
    exact h.idle
  · rw [ho]
    exact h.nodup
  · intro other hm
    rw [ht] at hm
    rw [hsame other (List.mem_append_right _ hm)]
    exact h.queued other hm
  · intro other hm
    rw [ho] at hm
    rw [batch?_congr (hsame other hm)]
    exact h.busy other hm
  · intro other x hx hc
    rw [ho]
    by_cases hw : other = who
    · subst hw
      rw [he, Function.update_self] at hx
      simp [hnew x hx] at hc
    · rw [he, Function.update_of_ne hw] at hx
      exact h.listed other x hx hc
  · exact pending_congr ho fun other hm => batch?_congr (hsame other hm)

theorem order_enter (t : Turns) (h : t.holder = none → t.waiting = []) (who : Nat) :
    (t.enter who).holder.toList ++ (t.enter who).waiting =
      t.holder.toList ++ t.waiting ++ [who] := by
  unfold Turns.enter
  cases hh : t.holder with
  | none => simp [h hh]
  | some holder => simp

/-- A call adds its change to the end of the queue. -/
theorem Sound.call (h : c.Sound) (he : c.errand who = none) (uri : String) (text : Document)
    (events : List ChangeEvent) :
    (c.apply (.call who uri text events)).Sound ∧
      (c.apply (.call who uri text events)).pending = c.pending ++ [events] := by
  generalize hd : c.apply (.call who uri text events) = d
  have hn : who ∉ c.order := h.not_mem_order (by simp [he])
  have ht : d.turns = c.turns.enter who := by
    rw [← hd]
    simp only [apply]
    split <;> rfl
  have ho : d.order = c.order ++ [who] := by
    rw [order, ht, order_enter _ h.idle, order]
  have hsame (other : Nat) (hw : other ≠ who) : d.errand other = c.errand other := by
    rw [← hd]
    simp only [apply]
    split <;> exact Function.update_of_ne hw _ _
  have hself : d.batch? who = some events := by
    rw [← hd]
    simp only [apply]
    split <;> simp [batch?, sendNow, assign, Errand.batch?, Notice.batch?]
  have hmem (other : Nat) (hm : other ∈ c.order) : other ≠ who := by
    rintro rfl
    exact hn hm
  refine ⟨⟨?_, ?_, ?_, ?_, ?_⟩, ?_⟩
  · rw [ht]
    unfold Turns.enter
    split <;> simp_all
  · rw [ho, ← List.concat_eq_append]
    exact h.nodup.concat hn
  · intro other hm
    rw [ht] at hm
    -- who finds nobody sending sends at once, so that nobody waits
    cases hh : c.turns.holder with
    | none => simp [Turns.enter, hh, h.idle hh] at hm
    | some holder =>
      simp only [Turns.enter, hh, List.mem_append, List.mem_singleton] at hm
      obtain hm | rfl := hm
      · rw [hsame other (hmem other (List.mem_append_right _ hm))]
        exact h.queued other hm
      · exact ⟨events, by rw [← hd]; simp [apply, hh, assign]⟩
  · intro other hm
    rw [ho, List.mem_append, List.mem_singleton] at hm
    obtain hm | rfl := hm
    · rw [batch?_congr (hsame other (hmem other hm))]
      exact h.busy other hm
    · exact ⟨events, hself⟩
  · intro other x hx hc
    rw [ho, List.mem_append, List.mem_singleton]
    by_cases hw : other = who
    · exact .inr hw
    · rw [hsame other hw] at hx
      exact .inl (h.listed other x hx hc)
  · rw [pending, ho, List.filterMap_append, List.filterMap_cons_some hself, pending]
    congr 1
    exact List.filterMap_congr fun other hm => batch?_congr (hsame other (hmem other hm))

/-- Whose turn has come sends what it had queued. -/
theorem Sound.grant (h : c.Sound) {events : List ChangeEvent}
    (he : c.errand who = some (.queue events)) (hh : c.turns.holder = some who) (uri : String) :
    (c.apply (.grant who uri events)).Sound ∧
      (c.apply (.grant who uri events)).pending = c.pending := by
  generalize hd : c.apply (.grant who uri events) = d
  have ht : d.turns = c.turns := by rw [← hd]; rfl
  have ho : d.order = c.order := by rw [order, ht, order]
  have hsame (other : Nat) (hw : other ≠ who) : d.errand other = c.errand other := by
    rw [← hd]
    exact Function.update_of_ne hw _ _
  have hself : d.batch? who = some events := by
    rw [← hd]
    simp [apply, batch?, sendNow, assign, Errand.batch?, Notice.batch?]
  have hbatch (other : Nat) : d.batch? other = c.batch? other := by
    by_cases hw : other = who
    · rw [hw, hself, batch?_of_errand he]
      rfl
    · exact batch?_congr (hsame other hw)
  refine ⟨⟨?_, ?_, ?_, ?_, ?_⟩, pending_congr ho fun other _ => hbatch other⟩
  · rw [ht]
    exact h.idle
  · rw [ho]
    exact h.nodup
  · intro other hm
    rw [ht] at hm
    have hw : other ≠ who := by
      rintro rfl
      exact h.waiting_of_holder hh hm
    rw [hsame other hw]
    exact h.queued other hm
  · intro other hm
    rw [ho] at hm
    rw [hbatch]
    exact h.busy other hm
  · intro other x hx hc
    rw [ho]
    by_cases hw : other = who
    · rw [hw]
      exact h.listed who _ he rfl
    · rw [hsame other hw] at hx
      exact h.listed other x hx hc

/-- What was sent is the first change of the queue, and the turn passes on. -/
theorem Sound.sent (h : c.Sound) {n : Notice} (he : c.errand who = some (.changing n))
    (isDelivered : Bool) :
    (c.apply (.sent who n isDelivered)).Sound ∧
      ∃ events, n.batch? = some events ∧
        c.pending = events :: (c.apply (.sent who n isDelivered)).pending := by
  generalize hd : c.apply (.sent who n isDelivered) = d
  have hh := h.holder_of_changing he
  have hn := h.waiting_of_holder hh
  have ht : d.turns = ⟨c.turns.waiting.head?, c.turns.waiting.tail⟩ := by rw [← hd]; rfl
  have hc : c.order = who :: c.turns.waiting := by rw [order, hh]; rfl
  have ho : d.order = c.turns.waiting := by
    rw [order, ht]
    cases c.turns.waiting <;> rfl
  have hsame (other : Nat) (hw : other ≠ who) : d.errand other = c.errand other := by
    rw [← hd]
    exact Function.update_of_ne hw _ _
  have hmem (other : Nat) (hm : other ∈ c.turns.waiting) : other ≠ who := by
    rintro rfl
    exact hn hm
  obtain ⟨events, hb⟩ := h.busy who (by simp [hc])
  refine ⟨⟨?_, ?_, ?_, ?_, ?_⟩, ?_⟩
  · rw [ht]
    intro hi
    rw [List.head?_eq_none_iff] at hi
    simp [hi]
  · rw [ho]
    exact (List.nodup_cons.mp (hc ▸ h.nodup)).2
  · intro other hm
    rw [ht] at hm
    have hm := List.mem_of_mem_tail hm
    rw [hsame other (hmem other hm)]
    exact h.queued other hm
  · intro other hm
    rw [ho] at hm
    rw [batch?_congr (hsame other (hmem other hm))]
    exact h.busy other (List.mem_append_right _ hm)
  · intro other x hx hc'
    rw [ho]
    have hw : other ≠ who := by
      rintro rfl
      rw [← hd] at hx
      simp [apply, assign] at hx
    rw [hsame other hw] at hx
    have hm := h.listed other x hx hc'
    rw [hc, List.mem_cons] at hm
    exact hm.resolve_left hw
  · rw [batch?_of_errand he] at hb
    have hp : d.pending = c.turns.waiting.filterMap c.batch? := by
      rw [pending, ho]
      exact List.filterMap_congr fun other hm => batch?_congr (hsame other (hmem other hm))
    rw [hp, pending, hc, List.filterMap_cons_some (batch?_of_errand he ▸ hb)]
    exact ⟨events, hb, rfl⟩

/-- A deed that is about no change leaves the queue as it is. -/
theorem Sound.rest (h : c.Sound) {deed : Deed} (ha : c.Allows deed) (hd : deed.isChange = false) :
    (c.apply deed).Sound ∧ (c.apply deed).pending = c.pending := by
  cases deed with
  | nothing => exact ⟨h, rfl⟩
  | keep text => exact ⟨⟨h.idle, h.nodup, h.queued, h.busy, h.listed⟩, rfl⟩
  | await who text =>
    have he : c.errand who = none := ha
    exact h.aside rfl rfl (by simp [he]) (by simp [Errand.isChange])
  | giveUp who =>
    obtain he | ⟨text, he⟩ := ha
    · exact h.aside rfl rfl (by simp [he]) (by simp)
    · exact h.aside rfl rfl (by simp [he, Errand.isChange]) (by simp)
  | tell who uri language text =>
    obtain he | he := ha
    · exact h.aside rfl rfl (by simp [he]) (by simp [Errand.isChange])
    · exact h.aside rfl rfl (by simp [he, Errand.isChange]) (by simp [Errand.isChange])
  | told who n isDelivered =>
    have he : c.errand who = some (.opening n) := ha
    exact h.aside rfl rfl (by simp [he, Errand.isChange]) (by simp)
  | call | grant | sent => cases hd

/-- No deed spoils the queue. -/
theorem Sound.apply (h : c.Sound) {deed : Deed} (ha : c.Allows deed) : (c.apply deed).Sound := by
  by_cases hd : deed.isChange = false
  · exact (h.rest ha hd).1
  · cases deed with
    | call who uri text events => exact (h.call ha.1 uri text events).1
    | grant who uri events => exact (h.grant ha.1 ha.2 uri).1
    | sent who n isDelivered => exact (h.sent ha isDelivered).1
    | _ => exact absurd rfl hd

end Queue
end Channel
end EditorLink
