import EditorLink.Proofs.Session.Following

/-!
# When a document is opened

A server should be told the text of a document once, and of changes only afterwards.
Whether it is depends on when the notices are handed over, since those on their way may
overtake each other: a change has to wait until the document was opened, and nobody may
open the document while somebody else is about to or has done so. What the server is told
is the text that the document had when opening it was asked for, whatever came between.
-/
namespace EditorLink

/-- Whether a notice comes to its end with a move. -/
def Move.isSent : Move → Bool
  | .sent _ _ _ => true
  | _ => false

/-- Whether a deed is about opening the document. -/
def Deed.isOpening : Deed → Bool
  | .tell _ _ _ _ | .told _ _ _ => true
  | _ => false

theorem Notice.isOpening_of_isChange {n : Notice} (h : n.isChange = true) :
    n.isOpening = false := by
  cases n <;> first | rfl | cases h

/-- Only what is about opening a document makes a difference to who has told its text. -/
theorem Channel.errand_apply_opening {c : Channel} {d : Deed} (ha : c.Allows d)
    (hd : d.isOpening = false) (who : Nat) (n : Notice) :
    (c.apply d).errand who = some (.opening n) ↔ c.errand who = some (.opening n) := by
  by_cases hw : d.who? = some who
  · rw [errand_apply_self hw]
    have hold : c.errand who ≠ some (.opening n) := by
      cases d with
      | giveUp => cases hw; obtain he | ⟨text, he⟩ := ha <;> simp [he]
      | nothing | keep => cases hw
      | tell | told => cases hd
      | _ => cases hw; simp_all [Allows]
    have hnew : c.next? d ≠ some (.opening n) := by
      cases d with
      | tell | told => cases hd
      | call => simp only [next?]; split <;> simp
      | _ => simp [next?]
    exact iff_of_false hnew hold
  · rw [errand_apply_of_ne hw]

/-- Only opening a document hands over a notice with its text. -/
theorem Channel.isOpening_handed? (c : Channel) (d : Deed) :
    (c.handed? d).any Notice.isOpening =
      match d with
      | .tell _ _ _ _ => true
      | _ => false := by
  cases d with
  | call who uri text events =>
    simp only [handed?, next?]
    split <;> rfl
  | _ => rfl

/-- Whoever has handed over a notice in order to open the document has told its text. -/
def Channel.Named (c : Channel) : Prop :=
  ∀ who n, c.errand who = some (.opening n) → n.isOpening = true

theorem Channel.Named.apply {c : Channel} (h : c.Named) (d : Deed) : (c.apply d).Named := by
  intro who n hn
  by_cases hw : d.who? = some who
  · rw [errand_apply_self hw] at hn
    cases d with
    | tell => cases hn; rfl
    | call =>
      simp only [next?] at hn
      split at hn <;> cases hn
    | _ => cases hn
  · rw [errand_apply_of_ne hw] at hn
    exact h who n hn

/-- Those who have told the text of the document and do not know yet what came of it. -/
structure Channel.Tellers (c : Channel) (senders : List Nat) : Prop where
  nodup : senders.Nodup
  mem_iff : ∀ who, who ∈ senders ↔ ∃ n, c.errand who = some (.opening n)

/-- Who tells the text joins the tellers, and who hears what came of it leaves them. -/
theorem Channel.Tellers.apply {c : Channel} {d : Deed} {senders : List Nat}
    (h : c.Tellers senders) (hn : c.Named) (sound : c.Sound) (ha : c.Allows d) :
    ∃ senders', (c.apply d).Tellers senders' ∧
      senders'.length + (d.settled?.any fun n => n.1.isOpening).toNat =
        senders.length + ((c.handed? d).any Notice.isOpening).toNat := by
  rw [isOpening_handed?]
  by_cases hd : d.isOpening = false
  · refine ⟨senders, ⟨h.nodup, fun who => ?_⟩, ?_⟩
    · simp only [errand_apply_opening ha hd, h.mem_iff]
    · cases d with
      | sent who n isDelivered =>
        have ho := Notice.isOpening_of_isChange (sound.isChange_of_changing ha)
        simp [Deed.settled?, ho]
      | tell | told => cases hd
      | _ => rfl
  · cases d with
    | tell who uri language text =>
      have hw : who ∉ senders := by
        rw [h.mem_iff]
        rintro ⟨n, hn⟩
        obtain he | he := ha <;> simp [he] at hn
      refine ⟨who :: senders, ⟨h.nodup.cons hw, fun other => ?_⟩, rfl⟩
      rw [List.mem_cons, h.mem_iff]
      by_cases ho : other = who <;> simp [ho, Channel.apply, assign]
    | told who n isDelivered =>
      have hw : who ∈ senders := (h.mem_iff who).mpr ⟨n, ha⟩
      refine ⟨senders.erase who, ⟨h.nodup.erase who, fun other => ?_⟩, ?_⟩
      · rw [h.nodup.mem_erase_iff, h.mem_iff]
        by_cases ho : other = who <;> simp [ho, Channel.apply, assign]
      · have hlen := List.length_pos_of_mem hw
        rw [List.length_erase_of_mem hw]
        simp [Deed.settled?, hn who n ha]
        omega
    | _ => exact absurd rfl hd

/-- Whoever has sent a change had done so before, or has just handed it over. -/
theorem Channel.changing_of_apply {c : Channel} {d : Deed} {who : Nat} {n : Notice}
    (h : (c.apply d).errand who = some (.changing n)) :
    c.errand who = some (.changing n) ∨ (c.handed? d).any Notice.isChange = true := by
  by_cases hw : d.who? = some who
  · rw [errand_apply_self hw] at h
    refine .inr ?_
    rw [handed?, h]
    cases d with
    | call =>
      simp only [next?] at h
      split at h <;> cases h
      rfl
    | grant => cases h; rfl
    | _ => cases h
  · rw [errand_apply_of_ne hw] at h
    exact .inl h

namespace Pool

namespace Step
variable (place : Nat) (x : Step)

/-- The server is told the text of the document. -/
def opens : Bool := (x.delivered? place).any Notice.isOpening

/-- The server is told about a change of the document. -/
def changes : Bool := (x.delivered? place).any Notice.isChange

/-- A notice with the text of the document is lost. -/
def losesOpening : Bool := (x.lost? place).any Notice.isOpening

/-- A notice with the text of the document is handed over. -/
def handsOpening : Bool := (x.handed? place).any Notice.isOpening

/-- A notice about a change of the document is handed over. -/
def handsChange : Bool := (x.handed? place).any Notice.isChange

end Step

/-- The server is told about changes of the document only after it was told its text,
and is told that once at most. -/
def OpensFirst (place : Nat) (steps : List Step) : Prop :=
  Along (fun past x => x.changes place = true → past.any (Step.opens place) = true) [] steps ∧
    steps.countP (Step.opens place) ≤ 1

/-- Changes of the document are handed over only when the server was told its text, and
its text only when all notices with it so far are lost. -/
def Orderly (place : Nat) : List Step → Prop :=
  Along (fun past x =>
    (x.handsChange place = true → past.any (Step.opens place) = true) ∧
      (x.handsOpening place = true →
        past.countP (Step.handsOpening place) = past.countP (Step.losesOpening place))) []

instance (place : Nat) (steps : List Step) : Decidable (OpensFirst place steps) :=
  inferInstanceAs (Decidable (_ ∧ _))

instance (place : Nat) (steps : List Step) : Decidable (Orderly place steps) :=
  inferInstanceAs (Decidable (Along _ _ _))

/-- The notices with the text of a document that were handed over are those that have
reached the server, those that are lost and those on their way. -/
structure Ledger (place : Nat) (steps : List Step) (p : Pool) : Prop where
  placed : p.Placed place
  sound : (p.channel place).Sound
  named : (p.channel place).Named
  balance : ∃ senders, (p.channel place).Tellers senders ∧
    steps.countP (Step.handsOpening place) =
      steps.countP (Step.opens place) + steps.countP (Step.losesOpening place) + senders.length

section
variable {depth place : Nat} {settings : Settings} {p q : Pool} {steps : List Step} {m : Move}

theorem opens_add_losesOpening (place : Nat) (x : Step) :
    (x.opens place).toNat + (x.losesOpening place).toNat =
      ((x.settled? place).any fun n => n.1.isOpening).toNat := by
  unfold Step.opens Step.losesOpening Step.delivered? Step.lost?
  match x.settled? place with
  | none => rfl
  | some (n, true) => rfl
  | some (n, false) => exact Nat.zero_add _

theorem ledger_start (place : Nat) (settings : Settings) :
    Ledger place [] (ofSession (.start settings)) where
  placed := placed_start place settings
  sound := sound_start place settings
  named who n he := by cases he
  balance := ⟨[], ⟨List.nodup_nil, fun who => by simp [channel_start]⟩, rfl⟩

theorem ledger_move (h : Ledger place steps p) (possible : p.move? depth m = some q) :
    Ledger place (steps ++ [⟨p, m, q⟩]) q := by
  obtain ⟨hq, ha, hplaced⟩ := follows_move possible h.placed
  obtain ⟨senders, ht, hcount⟩ := h.balance
  obtain ⟨senders', ht', hcount'⟩ := ht.apply h.named h.sound ha
  have hs := settled?_eq place (x := ⟨p, m, q⟩) possible
  have hh := handed?_eq (x := ⟨p, m, q⟩) possible h.placed
  dsimp only at hs hh
  have hends := opens_add_losesOpening place ⟨p, m, q⟩
  rw [← hs, ← hends, ← hh] at hcount'
  rw [← hq] at ht'
  refine ⟨hplaced, hq ▸ h.sound.apply ha, hq ▸ h.named.apply _, senders', ht', ?_⟩
  simp only [countP_concat, Step.handsOpening] at hcount hcount' ⊢
  omega

theorem ledger_run (run : Run depth (ofSession (.start settings)) steps p) (place : Nat) :
    Ledger place steps p := by
  induction run with
  | start => exact ledger_start place settings
  | next _ possible ih => exact ledger_move ih possible

theorem notice?_of_errand {who : Nat} {e : Errand} {n : Notice}
    (h : (p.channel place).errand who = some e) (hn : e.notice? = some n) :
    p.notice? place who = some n := by
  have he : p.errand place who = some e := h
  rw [notice?, he, Option.bind_some, hn]

theorem handed?_of_isSent (place : Nat) {x : Step} (h : x.move.isSent = true) :
    x.handed? place = none := by
  obtain ⟨before, m, after⟩ := x
  cases m <;> first | rfl | cases h

theorem settled?_of_handed? {x : Step} {n : Notice} (h : x.handed? place = some n) :
    x.settled? place = none := by
  obtain ⟨before, m, after⟩ := x
  cases m <;> first | rfl | cases h

theorem exists_notice?_of_handed? {x : Step} {n : Notice} (h : x.handed? place = some n) :
    ∃ who, x.after.notice? place who = some n := by
  obtain ⟨before, m, after⟩ := x
  cases m with
  | begin who | wake who | grant who => exact ⟨who, h⟩
  | _ => cases h

/-- All notices with the text of a document that are on their way can still arrive. -/
theorem exists_deliveries (depth : Nat) (h : Ledger place steps p) {k : Nat}
    (hk : steps.countP (Step.handsOpening place) =
      steps.countP (Step.opens place) + steps.countP (Step.losesOpening place) + k) :
    ∃ more r, Run depth p more r ∧ (∀ x ∈ more, x.move.isSent = true) ∧
      (steps ++ more).countP (Step.opens place) = steps.countP (Step.opens place) + k := by
  induction k generalizing steps p with
  | zero => exact ⟨[], p, .start, by simp, by simp⟩
  | succ k ih =>
    obtain ⟨senders, ht, hcount⟩ := h.balance
    have hlen : senders.length = k + 1 := by omega
    obtain ⟨who, rest, rfl⟩ := List.exists_cons_of_length_eq_add_one hlen
    obtain ⟨n, hn⟩ := (ht.mem_iff who).mp List.mem_cons_self
    have hp : p.notice? place who = some n := notice?_of_errand hn rfl
    -- one of them arrives, and the ledger tells that it was not counted before
    obtain ⟨q, possible⟩ := exists_sent depth hp true
    have hq := ledger_move h possible
    generalize hy : (⟨p, .sent who true (.ok ()), q⟩ : Step) = y at hq
    have hsettled : y.settled? place = some (n, true) := by
      simp [← hy, Step.settled?, hp]
    have hopens : y.opens place = true := by
      simp [Step.opens, Step.delivered?, hsettled, h.named who n hn]
    have hloses : y.losesOpening place = false := by
      simp [Step.losesOpening, Step.lost?, hsettled]
    have hhands : y.handsOpening place = false := by
      rw [Step.handsOpening, handed?_of_isSent place (by rw [← hy]; rfl)]
      rfl
    have hk' : (steps ++ [y]).countP (Step.handsOpening place) =
        (steps ++ [y]).countP (Step.opens place) +
          (steps ++ [y]).countP (Step.losesOpening place) + k := by
      simp only [countP_concat, hopens, hloses, hhands, Bool.toNat_true, Bool.toNat_false]
      omega
    obtain ⟨more, r, hr, hm, hc⟩ := ih hq hk'
    refine ⟨y :: more, r, ?_, ?_, ?_⟩
    · rw [← hy]
      exact (Run.single possible).append hr
    · intro x hx
      obtain rfl | hx := List.mem_cons.mp hx
      · rw [← hy]
        rfl
      · exact hm x hx
    · rw [List.append_cons, hc, countP_concat, hopens, Bool.toNat_true]
      omega

/-- What an orderly run has achieved, and still has after whatever it has sent arrives. -/
structure InOrder (place : Nat) (steps : List Step) (p : Pool) : Prop where
  ledger : Ledger place steps p
  opened : ∀ who n, (p.channel place).errand who = some (.changing n) →
    steps.any (Step.opens place) = true
  handed_le : steps.countP (Step.handsOpening place) ≤ steps.countP (Step.losesOpening place) + 1
  first : Along (fun past x => x.changes place = true → past.any (Step.opens place) = true) [] steps

theorem InOrder.opensFirst (h : InOrder place steps p) : OpensFirst place steps := by
  obtain ⟨senders, -, hcount⟩ := h.ledger.balance
  have hle := h.handed_le
  exact ⟨h.first, by omega⟩

theorem inOrder_move (h : InOrder place steps p) (possible : p.move? depth m = some q)
    (hc : Step.handsChange place ⟨p, m, q⟩ = true → steps.any (Step.opens place) = true)
    (ho : Step.handsOpening place ⟨p, m, q⟩ = true →
      steps.countP (Step.handsOpening place) = steps.countP (Step.losesOpening place)) :
    InOrder place (steps ++ [⟨p, m, q⟩]) q := by
  have hf := follows_move possible h.ledger.placed
  have hs := settled?_eq place (x := ⟨p, m, q⟩) possible
  have hh := handed?_eq (x := ⟨p, m, q⟩) possible h.ledger.placed
  have ha := hf.allowed
  dsimp only at hs hh
  refine ⟨ledger_move h.ledger possible, ?_, ?_, along_concat.mpr ⟨h.first, ?_⟩⟩
  · intro who n hn
    rw [hf.result] at hn
    rw [List.any_append, Bool.or_eq_true]
    obtain hn | hn := Channel.changing_of_apply hn
    · exact .inl (h.opened who n hn)
    · exact .inl (hc (by rw [Step.handsChange, hh]; exact hn))
  · have hle := h.handed_le
    rw [countP_concat, countP_concat]
    cases hx : Step.handsOpening place ⟨p, m, q⟩ with
    | true =>
      have heq := ho hx
      rw [Bool.toNat_true]
      omega
    | false =>
      rw [Bool.toNat_false]
      omega
  · intro hchange
    unfold Step.changes Step.delivered? at hchange
    rw [hs] at hchange
    generalize p.deed place m = d at ha hchange
    cases d with
    | told who n isDelivered =>
      have hn := h.ledger.named who n ha
      cases isDelivered with
      | true => rw [Notice.isOpening_of_isChange hchange] at hn; cases hn
      | false => cases hchange
    | sent who n isDelivered => exact h.opened who n ha
    | _ => cases hchange

theorem inOrder_run (run : Run depth (ofSession (.start settings)) steps p)
    (ho : Orderly place steps) : InOrder place steps p := by
  induction run with
  | start => exact ⟨ledger_start place settings, nofun, Nat.zero_le _, trivial⟩
  | next _ possible ih =>
    obtain ⟨hsteps, hc, ho⟩ := along_concat.mp ho
    exact inOrder_move (ih hsteps) possible hc ho

theorem inOrder_sent {more : List Step} (h : InOrder place steps p) (run : Run depth p more q)
    (hm : ∀ x ∈ more, x.move.isSent = true) : InOrder place (steps ++ more) q := by
  induction run with
  | start => rwa [List.append_nil]
  | next _ possible ih =>
    rw [← List.append_assoc]
    have hx := handed?_of_isSent place
      (hm _ (List.mem_append_right _ (List.mem_singleton_self _)))
    refine inOrder_move (ih fun x hx => hm x (List.mem_append_left _ hx)) possible ?_ ?_
    · simp [Step.handsChange, hx]
    · simp [Step.handsOpening, hx]

/-- A change that is handed over may arrive at once. -/
theorem any_opens_of_handsChange {x : Step}
    (h : ∀ more r, Run depth x.after more r → (∀ y ∈ more, y.move.isSent = true) →
      OpensFirst place (steps ++ [x] ++ more))
    (hc : x.handsChange place = true) : steps.any (Step.opens place) = true := by
  cases hx : x.handed? place with
  | none => simp [Step.handsChange, hx] at hc
  | some n =>
    obtain ⟨who, hn⟩ := exists_notice?_of_handed? hx
    obtain ⟨r, hr⟩ := exists_sent depth hn true
    have hfirst := (h _ r (Run.single hr) (by simp [Move.isSent])).1
    have hsettled : Step.settled? place ⟨x.after, .sent who true (.ok ()), r⟩ = some (n, true) := by
      simp [Step.settled?, hn]
    have hany := (along_concat.mp hfirst).2 (by
      simpa [Step.changes, Step.delivered?, hsettled, Step.handsChange, hx] using hc)
    simpa [Step.opens, Step.delivered?, settled?_of_handed? hx] using hany

/-- All notices with the text of a document that are handed over may arrive. -/
theorem countP_eq_of_handsOpening {x : Step} (hb : Ledger place steps p)
    (ha : Ledger place (steps ++ [x]) x.after)
    (h : ∀ more r, Run depth x.after more r → (∀ y ∈ more, y.move.isSent = true) →
      OpensFirst place (steps ++ [x] ++ more))
    (ho : x.handsOpening place = true) :
    steps.countP (Step.handsOpening place) = steps.countP (Step.losesOpening place) := by
  obtain ⟨senders, -, hcount⟩ := hb.balance
  obtain ⟨senders', -, hcount'⟩ := ha.balance
  obtain ⟨more, r, hr, hm, hc⟩ := exists_deliveries depth ha hcount'
  have honce := (h more r hr hm).2
  have hx : x.losesOpening place = false := by
    cases hx : x.handed? place with
    | none => simp [Step.handsOpening, hx] at ho
    | some n => simp [Step.losesOpening, Step.lost?, settled?_of_handed? hx]
  rw [List.countP_append] at hc honce
  simp only [countP_concat, ho, hx, Bool.toNat_true, Bool.toNat_false] at hcount' hc honce
  omega

/-- Whatever is on its way, a server is told the text of a document before any change of
it, and once at most, in exactly those runs in which the notices are handed over in order. -/
theorem opensFirst_iff_orderly (run : Run depth (ofSession (.start settings)) steps q) :
    (∀ first more r, first <+: steps → Run depth (ofSession (.start settings)) (first ++ more) r →
      (∀ x ∈ more, x.move.isSent = true) → OpensFirst place (first ++ more)) ↔
      Orderly place steps := by
  constructor
  · intro h
    -- each step is judged by what may happen if only what it has sent arrives
    induction run with
    | start => exact trivial
    | next run possible ih =>
      have hr := run.next possible
      have hmore := fun more r hm => h _ more r (List.prefix_refl _) (hr.append hm)
      have hsteps := ih fun first more r hp => h first more r (hp.trans (List.prefix_append _ _))
      exact along_concat.mpr ⟨hsteps, any_opens_of_handsChange hmore,
        countP_eq_of_handsOpening (ledger_run run place) (ledger_run hr place) hmore⟩
  · rintro ho first more r ⟨rest, rfl⟩ hr hm
    obtain ⟨p, hp, hq⟩ := hr.split
    exact (inOrder_sent (inOrder_run hp (along_append.mp ho).1) hq hm).opensFirst

end

/-- A document is about to be opened: the server is being told its text. -/
def openingInFlight : List Move :=
  [.command (.create "a" "file:///a" "text" .standard),
    .submit (.openBuffer "a" (.ofText "a".toList)), .begin 0, .beginExchange 0,
    .answerExchange 0 (.ok (Wire.ofIntroduced (.object []))), .announceExchange 0 true (.ok ()),
    .wake 0]

/-- The document changes when the server was told its text. -/
def changingOpened : List Move :=
  openingInFlight ++ [.sent 0 true (.ok ()),
    .submit (.update "a" (.ofText "ab".toList) none none), .begin 1]

theorem opensFirst_changingOpened :
    ((ofSession (.start .standard)).run? 0 changingOpened).isSome = true ∧
      ∀ first more r, first <+: trail 0 (ofSession (.start .standard)) changingOpened →
        Run 0 (ofSession (.start .standard)) (first ++ more) r →
        (∀ x ∈ more, x.move.isSent = true) → OpensFirst 0 (first ++ more) :=
  ⟨rfl, (opensFirst_iff_orderly (run_trail rfl)).mpr (by decide)⟩

/-- The document changes while the server is being told its text. -/
def changingUnopened : List Move :=
  openingInFlight ++ [.submit (.update "a" (.ofText "ab".toList) none none), .begin 1,
    .sent 1 true (.ok ()), .sent 0 true (.ok ())]

/-- A change overtakes the text of the document. -/
theorem not_opensFirst_changingUnopened :
    ((ofSession (.start .standard)).run? 0 changingUnopened).isSome = true ∧
      ¬ OpensFirst 0 (trail 0 (ofSession (.start .standard)) changingUnopened) :=
  ⟨rfl, by decide⟩

/-- The document is opened by two who do not know of each other. -/
def openingTwice : List Move :=
  openingInFlight ++ [.submit (.openBuffer "a" (.ofText "a".toList)), .begin 1,
    .sent 0 true (.ok ()), .sent 1 true (.ok ())]

example : (trail 0 (ofSession (.start .standard)) openingTwice).countP (Step.opens 0) = 2 := by
  decide

end Pool
end EditorLink
