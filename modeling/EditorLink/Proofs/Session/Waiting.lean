import EditorLink.Proofs.Session.Opening

/-!
# Edits while a session starts

Whoever opens a document has to wait for the handshake. The text that the server is told
then is the one that came with the wish to open it, and it replaces the text of the
document too: what was typed meanwhile is gone, unless it led back to the same text.
-/
namespace EditorLink

/-- Who opens a document or waits for doing so, and with which text. -/
def Deed.opens? : Deed → Option (Nat × Document)
  | .await who text | .tell who _ _ text => some (who, text)
  | _ => none

/-- Whoever waits for opening a document did so before, or has just begun to wait. -/
theorem Channel.await_of_apply {c : Channel} {d : Deed} {who : Nat} {text : Document}
    (h : (c.apply d).errand who = some (.await text)) :
    c.errand who = some (.await text) ∨ d.opens? = some (who, text) := by
  by_cases hw : d.who? = some who
  · rw [errand_apply_self hw] at h
    refine .inr ?_
    cases d with
    | await => cases hw; cases h; rfl
    | call =>
      simp only [next?] at h
      split at h <;> cases h
    | _ => cases h
  · rw [errand_apply_of_ne hw] at h
    exact .inl h

namespace Session

/-- The text that an operation gives a document when it starts. -/
def given? (s : Session) (place : Nat) : Operation → Option Document
  | .update name text _ _ | .synchronize name text _ =>
    if s.find? name = some place then some text else none
  | _ => none

section
variable {s : Session} {who place : Nat} {d : Deed}

theorem text?_sendDeed (text : Document) (events : List ChangeEvent) :
    (s.sendDeed who place text events).text? = some text := by
  unfold sendDeed
  split <;> rfl

theorem text?_synchronizeDeed (text : Document) (splices : Option (List Splice)) :
    (s.synchronizeDeed who place text splices).text? = some text := by
  unfold synchronizeDeed
  split
  · rfl
  · exact text?_sendDeed text _

theorem opens?_sendDeed (text : Document) (events : List ChangeEvent) :
    (s.sendDeed who place text events).opens? = none := by
  unfold sendDeed
  split <;> rfl

theorem opens?_synchronizeDeed (text : Document) (splices : Option (List Splice)) :
    (s.synchronizeDeed who place text splices).opens? = none := by
  unfold synchronizeDeed
  split
  · rfl
  · exact opens?_sendDeed text _

theorem opens?_openDeed {w : Nat} {text t : Document} {outcome : Option (Except Failure Unit)}
    (h : (s.openDeed who place text outcome).opens? = some (w, t)) : w = who ∧ t = text := by
  unfold openDeed at h
  split at h <;> cases h <;> exact ⟨rfl, rfl⟩

/-- Only who asked for opening a document opens it or waits for doing so, with the text that
came along. -/
theorem opens?_beginDeed {operation : Operation} {w : Nat} {t : Document}
    (h : (s.beginDeed who place operation).opens? = some (w, t)) :
    w = who ∧ ∃ name, operation = .openBuffer name t := by
  have hif {P : Prop} [Decidable P] {d : Deed} (hd : d.opens? = none) :
      (if P then d else .nothing).opens? = none := by
    split
    · exact hd
    · rfl
  cases operation with
  | openBuffer name text =>
    unfold beginDeed at h
    dsimp only at h
    split at h
    · split at h
      · cases h
      · obtain ⟨rfl, rfl⟩ := opens?_openDeed h
        exact ⟨rfl, name, rfl⟩
    · cases h
  | update name text splices cursor =>
    cases (hif (opens?_synchronizeDeed text splices)).symm.trans h
  | synchronize name text splices =>
    cases (hif (opens?_synchronizeDeed text splices)).symm.trans h
  | refresh name => cases (hif (opens?_sendDeed _ _)).symm.trans h
  | sendEvents name events => cases (hif (opens?_sendDeed _ events)).symm.trans h
  | _ => cases h

/-- The text of a document is what an operation gives it, or as it was if the operation
gives it none and does not open it. -/
theorem text?_beginDeed (who : Nat) (operation : Operation)
    (h : (s.beginDeed who place operation).isOpening = false) :
    (s.beginDeed who place operation).text?.getD (s.buffer place).text =
      (s.given? place operation).getD (s.buffer place).text := by
  cases operation with
  | openBuffer name text =>
    unfold beginDeed openDeed at h ⊢
    dsimp only at h ⊢
    split at h
    · rename_i hf
      rw [if_pos hf]
      split at h
      · rename_i hc
        rw [if_pos hc]
        rfl
      · rename_i hc
        rw [if_neg hc]
        split at h <;> first | rfl | cases h
    · rename_i hf
      rw [if_neg hf]
      rfl
  | update name text splices cursor =>
    by_cases hf : s.find? name = some place
    · by_cases ht : text = (s.buffer place).text
      · simp [beginDeed, given?, hf, ht, Deed.text?]
      · simp [beginDeed, given?, hf, ht, text?_synchronizeDeed]
    · simp [beginDeed, given?, hf, Deed.text?]
  | synchronize name text splices =>
    by_cases hf : s.find? name = some place
    · simp [beginDeed, given?, hf, text?_synchronizeDeed]
    · simp [beginDeed, given?, hf, Deed.text?]
  | refresh name =>
    by_cases hf : s.find? name = some place
    · simp [beginDeed, given?, hf, text?_sendDeed]
    · simp [beginDeed, given?, hf, Deed.text?]
  | sendEvents name events =>
    by_cases hf : s.find? name = some place
    · simp [beginDeed, given?, hf, text?_sendDeed]
    · simp [beginDeed, given?, hf, Deed.text?]
  | _ => rfl

end
end Session

namespace Pool
open Session

/-- The text that a document is given in a step. -/
def Step.given? (place : Nat) (x : Step) : Option Document :=
  match x.move with
  | .begin who =>
    match x.before.tasks[who]? with
    | some (.created operation) => x.before.session.given? place operation
    | _ => none
  | _ => none

/-- The texts that a document is given, in turn. -/
def given (place : Nat) (steps : List Step) : List Document :=
  steps.filterMap (Step.given? place)

section
variable {depth place who : Nat} {settings : Settings} {p q : Pool} {steps : List Step} {m : Move}

theorem given?_begin (place : Nat) {operation : Operation} (q : Pool)
    (created : p.tasks[who]? = some (.created operation)) :
    Step.given? place ⟨p, .begin who, q⟩ = p.session.given? place operation := by
  simp only [Step.given?, created]

/-- A document is opened by an operation that begins with the text that came along, or by one
that has waited for it. -/
theorem opens?_deed {w : Nat} {t : Document} (possible : p.move? depth m = some q)
    (h : (p.deed place m).opens? = some (w, t)) :
    (m = .begin w ∧ ∃ name, p.tasks[w]? = some (.created (.openBuffer name t))) ∨
      (m = .wake w ∧ p.errand place w = some (.await t)) := by
  cases moves_of_possible possible with
  | begin created begins =>
    rw [deed_begin created] at h
    obtain ⟨rfl, name, rfl⟩ := opens?_beginDeed h
    exact .inl ⟨rfl, name, created⟩
  | @wake who number next outcome paused ended =>
    simp only [deed, paused] at h
    cases next with
    | finish => cases h
    | openBuffer other text =>
      dsimp only at h
      split at h
      · rename_i ho
        obtain ⟨rfl, rfl⟩ := opens?_openDeed h
        exact .inr ⟨rfl, (errand_of_pause place paused).trans (if_pos ho)⟩
      · cases h
  | grant paused holds =>
    simp only [deed, paused] at h
    split at h <;> cases h
  | sent isDelivered outcome paused =>
    obtain hd | hd | hd := deed_sent place paused isDelivered outcome <;> rw [hd] at h <;> cases h
  | _ => cases h

/-- A document has the text that it is given, or as before, as long as nobody opens it. -/
theorem text_move (hp : p.Placed place) (possible : p.move? depth m = some q)
    (h : Step.handsOpening place ⟨p, m, q⟩ = false) :
    (q.session.buffer place).text =
      (Step.given? place ⟨p, m, q⟩).getD (p.session.buffer place).text := by
  have hf := follows_move possible hp
  have hh := handed?_eq (x := ⟨p, m, q⟩) possible hp
  have hq : (q.session.buffer place).text =
      (p.deed place m).text?.getD (p.session.buffer place).text := by
    have ht := congrArg Channel.text hf.result
    rwa [Channel.text_apply] at ht
  rw [Step.handsOpening, hh, Channel.isOpening_handed?] at h
  dsimp only at h
  rw [hq]
  cases moves_of_possible possible with
  | @begin who operation a created begins =>
    rw [given?_begin place _ created]
    rw [deed_begin created] at h ⊢
    refine text?_beginDeed who operation ?_
    have hs := p.session.starts_beginDeed who place operation
    generalize p.session.beginDeed who place operation = d at h hs
    cases hs <;> first | rfl | cases h
  | @wake who number next outcome paused ended =>
    simp only [deed, paused] at h ⊢
    cases next with
    | finish => rfl
    | openBuffer other text =>
      dsimp only at h ⊢
      by_cases ho : other = place
      · rw [if_pos ho, ended] at h ⊢
        cases outcome with
        | error why => rfl
        | ok u => cases h
      · rw [if_neg ho]
        rfl
  | grant paused holds =>
    simp only [deed, paused]
    split <;> rfl
  | sent isDelivered outcome paused =>
    obtain hd | hd | hd := deed_sent place paused isDelivered outcome <;> rw [hd] <;> rfl
  | _ => rfl

/-- A document has the last text that it is given, as long as nobody opens it. -/
theorem text_run (hp : p.Placed place) (run : Run depth p steps q)
    (h : ∀ x ∈ steps, x.handsOpening place = false) :
    (q.session.buffer place).text =
      (given place steps).getLast?.getD (p.session.buffer place).text := by
  induction run with
  | start => rfl
  | @next steps q r m run possible ih =>
    have hx := h _ (List.mem_append_right _ (List.mem_singleton_self _))
    rw [text_move (placed_run hp run) possible hx, ih fun x hx => h x (List.mem_append_left _ hx)]
    cases hg : Step.given? place ⟨q, m, r⟩ with
    | none => simp [given, hg]
    | some t => simp [given, hg]

/-- Somebody has asked for opening a document with a text, and has not lost sight of it. -/
def Intends (place who : Nat) (text : Document) (p : Pool) : Prop :=
  (∃ name, p.tasks[who]? = some (.created (.openBuffer name text))) ∨
    ((∃ progress, p.tasks[who]? = some (.running progress)) ∧
      ∀ t, p.errand place who = some (.await t) → t = text)

theorem intends_move {text : Document} (h : Intends place who text p) (hp : p.Placed place)
    (possible : p.move? depth m = some q) : Intends place who text q := by
  have hf := follows_move possible hp
  have hold (t : Document) (ht : q.errand place who = some (.await t)) :
      p.errand place who = some (.await t) ∨
        ∃ name, p.tasks[who]? = some (.created (.openBuffer name t)) := by
    have hq : q.errand place = ((p.channel place).apply (p.deed place m)).errand :=
      congrArg Channel.errand hf.result
    rw [hq] at ht
    obtain hc | hc := Channel.await_of_apply ht
    · exact .inl hc
    · obtain ⟨-, hn⟩ | ⟨-, hw⟩ := opens?_deed possible hc
      · exact .inr hn
      · exact .inl hw
  obtain ⟨name, ht⟩ | ⟨⟨progress, ht⟩, hawait⟩ := h
  · obtain hq | ⟨-, hq⟩ := task_move possible ht
    · exact .inl ⟨name, hq⟩
    · refine .inr ⟨hq, fun t h => ?_⟩
      obtain he | ⟨other, he⟩ := hold t h
      · simp [errand_of_created ht] at he
      · rw [ht] at he
        cases he
        rfl
  · have hq : ∃ progress, q.tasks[who]? = some (.running progress) := by
      obtain hq | ⟨-, hq⟩ := task_move possible ht
      · exact ⟨progress, hq⟩
      · exact hq
    refine .inr ⟨hq, fun t h => ?_⟩
    obtain he | ⟨other, he⟩ := hold t h
    · exact hawait t he
    · rw [ht] at he
      cases he

theorem intends_run {text : Document} (h : Intends place who text p) (hp : p.Placed place)
    (run : Run depth p steps q) : Intends place who text q := by
  induction run with
  | start => exact h
  | next run possible ih => exact intends_move ih (placed_run hp run) possible

/-- What is told of a document is the text that came with the wish to open it. -/
theorem handed?_of_intends {text : Document} {x : Step} {uri language : String} {version : Nat}
    {carried : List Char} (h : Intends place who text x.before) (hp : x.before.Placed place)
    (possible : x.before.move? depth x.move = some x.after) (hw : x.move.task? = some who)
    (hx : x.handed? place = some (.opened uri language version carried)) :
    carried = text.text ∧ (x.after.session.buffer place).text = text := by
  have hf := follows_move possible hp
  rw [handed?_eq possible hp] at hx
  have hd : ∃ w t, x.before.deed place x.move = .tell w uri language t ∧ carried = t.text := by
    generalize x.before.deed place x.move = d at hx
    cases d with
    | tell w uri language t => cases hx; exact ⟨w, t, rfl, rfl⟩
    | call w uri t events =>
      simp only [Channel.handed?, Channel.next?] at hx
      split at hx <;> cases hx
    | _ => cases hx
  obtain ⟨w, t, hd, rfl⟩ := hd
  have htext : (x.after.session.buffer place).text = t := by
    have ht := congrArg Channel.text hf.result
    rw [Channel.text_apply, hd] at ht
    exact ht
  have ht : t = text := by
    -- it opens the document at once, or after it has waited
    obtain ⟨hm, name, hn⟩ | ⟨hm, he⟩ := opens?_deed possible (congrArg Deed.opens? hd)
    · rw [hm] at hw
      cases hw
      obtain ⟨other, ho⟩ | ⟨⟨progress, ho⟩, -⟩ := h
      · rw [hn] at ho
        cases ho
        rfl
      · rw [hn] at ho
        cases ho
    · rw [hm] at hw
      cases hw
      obtain ⟨other, ho⟩ | ⟨-, ho⟩ := h
      · simp [errand_of_created ho] at he
      · exact ho t he
  rw [htext, ht]
  exact ⟨rfl, rfl⟩

/-- What the server is told of a document that was given texts after opening it was asked for
is the newest of them, and the document keeps that, exactly if it is the text that opening it
was asked for with; until then the document had the newest of them. -/
theorem told_newest_iff {first middle : List Step} {x y : Step} {name : String}
    {text newest : Document} {earlier : List Document} {uri language : String} {version : Nat}
    {carried : List Char}
    (run : Run depth (ofSession (.start settings)) (first ++ x :: (middle ++ [y])) q)
    (asked : x.move = .submit (.openBuffer name text))
    (goes : y.move.task? = some x.before.tasks.length)
    (hands : y.handed? place = some (.opened uri language version carried))
    (edits : given place middle = earlier ++ [newest]) :
    ((carried = newest.text ∧ (y.after.session.buffer place).text = newest) ↔ newest = text) ∧
      ((∀ z ∈ middle, z.handsOpening place = false) →
        (y.before.session.buffer place).text = newest) := by
  obtain ⟨hfirst, hrest⟩ := run.at_step
  obtain ⟨hmiddle, -⟩ := hrest.at_step
  have hx := run.step_possible (x := x) (by simp)
  have hy := run.step_possible (x := y) (by simp)
  have hplaced := (follows_move hx (placed_run (placed_start place settings) hfirst)).placed
  have hintends : Intends place x.before.tasks.length text x.after := by
    rw [asked] at hx
    rw [← Option.some.inj hx]
    exact .inl ⟨name, by simp⟩
  have hi := intends_run hintends hplaced hmiddle
  obtain ⟨hcarried, htext⟩ := handed?_of_intends hi (placed_run hplaced hmiddle) hy goes hands
  refine ⟨?_, fun hz => ?_⟩
  · rw [hcarried, htext]
    constructor
    · exact fun h => h.2.symm
    · rintro rfl
      exact ⟨rfl, rfl⟩
  · rw [text_run hplaced hmiddle hz, edits]
    simp

end

/-- A document is to be opened, and somebody types before the handshake has begun. -/
def typingMeanwhile : List Move :=
  [.command (.create "a" "file:///a" "text" .standard),
    .submit (.openBuffer "a" (.ofText "a".toList)), .begin 0,
    .submit (.update "a" (.ofText "ab".toList) none none), .begin 1, .beginExchange 0,
    .answerExchange 0 (.ok (Wire.ofIntroduced (.object []))), .announceExchange 0 true (.ok ())]

/-- The pool when the handshake is over. -/
def typedMeanwhile : Pool :=
  ((ofSession (.start .standard)).run? 0 typingMeanwhile).getD (ofSession (.start .standard))

theorem told_newest_typedMeanwhile :
    ((ofSession (.start .standard)).run? 0 typingMeanwhile).isSome = true ∧
      given 0 (trail 0 (ofSession (.start .standard)) typingMeanwhile) = [.ofText "ab".toList] ∧
      (typedMeanwhile.session.buffer 0).text = .ofText "ab".toList := by
  refine ⟨rfl, rfl, ?_⟩
  let steps := trail 0 (ofSession (.start .standard)) (typingMeanwhile ++ [.wake 0])
  have hsteps : steps = steps.take 1 ++ (steps.drop 1).head (by decide) ::
      ((steps.drop 2).take 6 ++ [steps.getLast (by decide)]) := rfl
  have run : ∃ q, Run 0 (ofSession (.start .standard)) steps q := ⟨_, run_trail rfl⟩
  obtain ⟨q, run⟩ := hsteps ▸ run
  have edits : given 0 ((steps.drop 2).take 6) = [] ++ [.ofText "ab".toList] := rfl
  exact (told_newest_iff run rfl rfl rfl edits).2 (by decide)

/-- The server is told a text that is older than what was typed, and so is the document. -/
theorem told_old_typedMeanwhile :
    (typedMeanwhile.move? 0 (.wake 0)).map
        (fun p => (p.notice? 0 0, (p.session.buffer 0).text)) =
      some (some (.opened "file:///a" "text" 1 "a".toList), .ofText "a".toList) ∧
      (typedMeanwhile.session.buffer 0).text = .ofText "ab".toList ∧
      Document.ofText "a".toList ≠ .ofText "ab".toList :=
  ⟨rfl, rfl, by decide⟩

end Pool
end EditorLink
