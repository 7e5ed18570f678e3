import EditorLink.Proofs.Document.Serving
import EditorLink.Proofs.Session.Closing
import EditorLink.Proofs.Session.Following

/-!
# A server that follows a document

Once a document is open on a ready session, its server follows it: each change that
arrives turns the text of the server into the text that the editor had when the change
was made, however many changes wait for their turn meanwhile. The changes that have
arrived are the first of those that were made, and the rest is in the queue.
-/
namespace EditorLink
open ChangeEvent

/-- A document whose lines end with newlines alone, and not too long for its positions. -/
def Document.Plain (d : Document) : Prop :=
  ∃ text, d = .ofText text ∧ '\r' ∉ text ∧ text.length ≤ Failure.maxCoordinate

/-- A new text that comes with splices, if any, that make it of the old one. -/
structure Document.Becomes (old new : Document) (splices : Option (List Splice)) : Prop where
  plain : new.Plain
  fits : ∀ batch, splices = some batch →
    Splice.Fits old.text batch ∧ Splice.applyAtOnce batch old.text = new.text

/-- What an operation makes of a document. -/
structure Edit where
  old : Document
  new : Document
  /-- Whether the new text is told as a whole. -/
  isWhole : Bool

/-- Events that tell about an edit. -/
structure Edit.Tells (e : Edit) (events : List ChangeEvent) : Prop where
  serves : serveAll? e.old.text events = some e.new.text
  whole : e.isWhole = true → events = [.whole e.new.text]

namespace Session

/-- The text of a document for which an operation sends a change when it starts. -/
def recorded? (s : Session) (place : Nat) : Operation → Option Document
  | .update name text _ _ =>
    if s.find? name = some place ∧ text ≠ (s.buffer place).text then some text else none
  | .synchronize name text _ => if s.find? name = some place then some text else none
  | .refresh name => if s.find? name = some place then some (s.buffer place).text else none
  | _ => none

/-- An operation that gives a document a new text only along with the splices that make
it, and neither opens it nor makes up events for it. -/
def Consistent (s : Session) (place : Nat) : Operation → Prop
  | .openBuffer name _ | .sendEvents name _ => s.find? name ≠ some place
  | .update name text splices _ | .synchronize name text splices =>
    s.find? name = some place → (s.buffer place).text.Becomes text splices
  | _ => True

/-- The events for a change bring a server from the old text to the new one. -/
theorem eventsOf_faithful (incremental : Bool) {old new : Document} {splices : Option (List Splice)}
    (ho : old.Plain) (h : old.Becomes new splices) :
    ∃ events, eventsOf incremental old new splices = .ok events ∧
      serveAll? old.text events = some new.text := by
  have hwhole : serveAll? old.text [.whole new.text] = some new.text := serveAll?_singleton _ _
  unfold eventsOf
  split
  · rename_i batch
    obtain ⟨hf, hr⟩ := h.fits batch rfl
    obtain ⟨text, rfl, hp, hl⟩ := ho
    rw [Document.text_ofText hp] at hf hr ⊢
    rw [← hr]
    exact Splice.events_faithful hp hl hf
  · exact ⟨_, rfl, hwhole⟩

/-- A text is taken over for a document, with splices if the editor knows them. -/
def editTo (s : Session) (place : Nat) (text : Document) (splices : Option (List Splice)) : Edit :=
  ⟨(s.buffer place).text, text, !((s.buffer place).options.incremental && splices.isSome)⟩

/-- What an operation makes of a document when it starts, if it takes over a text. -/
def edit? (s : Session) (place : Nat) : Operation → Option Edit
  | .update name text splices _ =>
    if s.find? name = some place ∧ text ≠ (s.buffer place).text then
      some (s.editTo place text splices)
    else none
  | .synchronize name text splices =>
    if s.find? name = some place then some (s.editTo place text splices) else none
  | .refresh name =>
    if s.find? name = some place then some (s.editTo place (s.buffer place).text none) else none
  | _ => none

/-- A deed with which an operation starts that gives a document its new text along with what
tells about it. -/
inductive Sends (s : Session) (place who : Nat) (operation : Operation) : Deed → Prop where
  | nothing (edit : s.edit? place operation = none) : s.Sends place who operation .nothing
  | keep {e : Edit} (edit : s.edit? place operation = some e) (plain : e.new.Plain)
    (deaf : (s.isReady && (s.buffer place).isOpen) = false) :
    s.Sends place who operation (.keep e.new)
  | call {uri : String} {events : List ChangeEvent} {e : Edit}
    (edit : s.edit? place operation = some e) (plain : e.new.Plain) (tells : e.Tells events) :
    s.Sends place who operation (.call who uri e.new events)

section
variable {s : Session} {place : Nat}

theorem tells_eventsOf {text : Document} {splices : Option (List Splice)}
    (hp : (s.buffer place).text.Plain) (hb : (s.buffer place).text.Becomes text splices) :
    ∃ events, eventsOf (s.buffer place).options.incremental (s.buffer place).text text splices =
      .ok events ∧ (s.editTo place text splices).Tells events := by
  obtain ⟨events, he, hs⟩ := eventsOf_faithful (s.buffer place).options.incremental hp hb
  refine ⟨events, he, hs, fun hw => ?_⟩
  unfold eventsOf at he
  split at he
  · rename_i hi
    simp [editTo, hi] at hw
  · cases he
    rfl

theorem recorded?_eq (s : Session) (place : Nat) (operation : Operation) :
    s.recorded? place operation = (s.edit? place operation).map Edit.new := by
  cases operation with
  | update | synchronize | refresh =>
    rw [recorded?, edit?]
    split <;> rfl
  | _ => rfl

theorem old_of_edit? {operation : Operation} {e : Edit} (h : s.edit? place operation = some e) :
    e.old = (s.buffer place).text := by
  cases operation with
  | update | synchronize | refresh =>
    rw [edit?] at h
    split at h <;> cases h
    rfl
  | _ => cases h

/-- An operation that starts sends what it makes of a document, or keeps it to itself where
the session is not ready or the document not open. -/
theorem sends_beginDeed (who : Nat) {operation : Operation} (hp : (s.buffer place).text.Plain)
    (hf : s.Consistent place operation) :
    s.Sends place who operation (s.beginDeed who place operation) := by
  have hsend {e : Edit} {events : List ChangeEvent} (he : s.edit? place operation = some e)
      (hn : e.new.Plain) (ht : e.Tells events) :
      s.Sends place who operation (s.sendDeed who place e.new events) := by
    unfold sendDeed
    split
    · exact .call he hn ht
    · rename_i hd
      exact .keep he hn (by simpa using hd)
  have hsync {text : Document} {splices : Option (List Splice)}
      (hb : (s.buffer place).text.Becomes text splices)
      (he : s.edit? place operation = some (s.editTo place text splices)) :
      s.Sends place who operation (s.synchronizeDeed who place text splices) := by
    obtain ⟨events, hok, ht⟩ := tells_eventsOf hp hb
    simp only [synchronizeDeed, hok]
    exact hsend he hb.plain ht
  cases operation with
  | update name text splices cursor =>
    rw [beginDeed]
    split
    · rename_i hn
      exact hsync (hf hn.1) (if_pos hn)
    · exact .nothing (if_neg ‹_›)
  | synchronize name text splices =>
    rw [beginDeed]
    split
    · rename_i hn
      exact hsync (hf hn) (if_pos hn)
    · exact .nothing (if_neg ‹_›)
  | refresh name =>
    rw [beginDeed]
    split
    · rename_i hn
      have ht : (s.editTo place (s.buffer place).text none).Tells
          [.whole (s.buffer place).text.text] :=
        ⟨serveAll?_singleton _ _, fun _ => rfl⟩
      exact hsend (e := s.editTo place (s.buffer place).text none) (if_pos hn) hp ht
    · exact .nothing (if_neg ‹_›)
  | openBuffer name text | sendEvents name events =>
    rw [beginDeed, if_neg hf]
    exact .nothing rfl
  | _ => exact .nothing rfl

/-- An operation on a ready session that starts either does nothing for an open document or
sends what brings a server from its text to the one that is recorded. -/
theorem beginDeed_ready (who : Nat) {operation : Operation} (hr : s.isReady = true)
    (ho : (s.buffer place).isOpen = true) (hp : (s.buffer place).text.Plain)
    (hf : s.Consistent place operation) :
    (s.beginDeed who place operation = .nothing ∧ s.recorded? place operation = none) ∨
      ∃ uri text events, s.beginDeed who place operation = .call who uri text events ∧
        s.recorded? place operation = some text ∧ text.Plain ∧
        serveAll? (s.buffer place).text.text events = some text.text := by
  have hs := sends_beginDeed who hp hf
  rw [recorded?_eq]
  generalize s.beginDeed who place operation = d at hs
  cases hs with
  | nothing edit => exact .inl ⟨rfl, by rw [edit]; rfl⟩
  | keep edit plain deaf => simp [hr, ho] at deaf
  | @call uri events e edit plain tells =>
    have hserves := tells.serves
    rw [old_of_edit? edit] at hserves
    exact .inr ⟨uri, e.new, events, rfl, by rw [edit]; rfl, plain, hserves⟩

end
end Session

/-! ## Texts in turn -/

/-- Each batch of events brings a server from the text before it to the text beside it. -/
def Leads (text : Document) : List (Document × List ChangeEvent) → Prop
  | [] => True
  | (next, events) :: rest => serveAll? text.text events = some next.text ∧ Leads next rest

/-- The last of some texts. -/
def final (text : Document) : List (Document × List ChangeEvent) → Document
  | [] => text
  | (next, _) :: rest => final next rest

theorem final_append (text : Document) (calls more : List (Document × List ChangeEvent)) :
    final text (calls ++ more) = final (final text calls) more := by
  induction calls generalizing text with
  | nil => rfl
  | cons call rest ih => exact ih call.1

theorem Leads.append {text : Document} {calls more : List (Document × List ChangeEvent)}
    (h : Leads text calls) (hm : Leads (final text calls) more) : Leads text (calls ++ more) := by
  induction calls generalizing text with
  | nil => exact hm
  | cons call rest ih => exact ⟨h.1, ih h.2 hm⟩

theorem final_eq_getLast (text : Document) (calls : List (Document × List ChangeEvent)) :
    final text calls = (text :: calls.map Prod.fst).getLast (List.cons_ne_nil _ _) := by
  induction calls generalizing text with
  | nil => rfl
  | cons call rest ih => exact ih call.1

/-- A server that was told some of the batches holds the text beside the last of them. -/
theorem Leads.serveAll? {text : Document} {calls : List (Document × List ChangeEvent)}
    (h : Leads text calls) {k : Nat} (hk : k ≤ calls.length) :
    ChangeEvent.serveAll? text.text ((calls.map Prod.snd).take k).flatten =
      ((text :: calls.map Prod.fst)[k]?).map Document.text := by
  induction calls generalizing text k with
  | nil =>
    obtain rfl : k = 0 := Nat.le_zero.mp hk
    rfl
  | cons call rest ih =>
    cases k with
    | zero => rfl
    | succ k =>
      rw [List.map_cons, List.take_succ_cons, List.flatten_cons, serveAll?_append, h.1,
        Option.bind_some, ih h.2 (Nat.le_of_succ_le_succ hk)]
      rfl

namespace Pool
open Session

/-- The text that is recorded for a document in a step, where a change of it is made. -/
def Step.recorded? (place : Nat) (x : Step) : Option Document :=
  match x.move with
  | .begin who =>
    match x.before.tasks[who]? with
    | some (.created operation) => x.before.session.recorded? place operation
    | _ => none
  | _ => none

/-- The text of a document that a server holds after a notice, if it holds any. -/
def heldAfter (held : Option (List Char)) : Notice → Option (List Char)
  | .opened _ _ _ text => some text
  | .changed _ _ events => held.bind (serveAll? · events)
  | _ => held

/-- The text of a document that a server holds after some steps, if it holds any. -/
def held (place : Nat) (steps : List Step) : Option (List Char) :=
  (steps.filterMap (Step.delivered? place)).foldl heldAfter none

/-- The text that a document had first, and those that are recorded for it. -/
def texts (place : Nat) (text : Document) (steps : List Step) : List Document :=
  text :: steps.filterMap (Step.recorded? place)

/-- The batches of events that reach the server, in turn. -/
def arrived (place : Nat) (steps : List Step) : List (List ChangeEvent) :=
  (steps.filterMap (Step.delivered? place)).filterMap Notice.batch?

/-- A step in which the session is not closed, the document gets new texts only along with
the splices that make them, and no notice about the document is lost. -/
structure Step.Calm (place : Nat) (x : Step) : Prop where
  unclosed : x.after.session.phase ≠ .closed
  consistent : ∀ who operation, x.move = .begin who →
    x.before.tasks[who]? = some (.created operation) → x.before.session.Consistent place operation
  kept : x.lost? place = none

/-- The session is ready, and the document was opened with a text that nobody has changed
or is about to. -/
structure Settled (place : Nat) (text : Document) (p : Pool) : Prop where
  exists_buffer : place < p.session.buffers.length
  ready : p.session.isReady = true
  isOpen : (p.session.buffer place).isOpen = true
  text_eq : (p.session.buffer place).text = text
  idle : (p.session.buffer place).turns = .idle
  quiet : ∀ who, p.errand place who = none

/-- The changes that were made after some text: their texts are recorded, and the first of
their batches have arrived while the others are in the queue. -/
structure Agrees (place : Nat) (text : Document) (steps : List Step) (p : Pool) : Prop where
  placed : p.Placed place
  sound : (p.channel place).Sound
  ready : p.session.isReady = true
  version_ne : (p.channel place).version ≠ 0
  changes : ∀ who e, (p.channel place).errand who = some e → e.isChange = true
  plain : (p.channel place).text.Plain
  calls : ∃ calls, Leads text calls ∧ final text calls = (p.channel place).text ∧
    calls.map Prod.fst = steps.filterMap (Step.recorded? place) ∧
    calls.map Prod.snd = arrived place steps ++ (p.channel place).pending
  serves : ∀ before, held place before = some text.text →
    held place (before ++ steps) = serveAll? text.text (arrived place steps).flatten

section
variable {depth place : Nat} {text : Document} {p q : Pool} {steps : List Step} {m : Move}

theorem recorded?_begin (place : Nat) {who : Nat} {operation : Operation} (q : Pool)
    (created : p.tasks[who]? = some (.created operation)) :
    Step.recorded? place ⟨p, .begin who, q⟩ = p.session.recorded? place operation := by
  simp only [Step.recorded?, created]

theorem Settled.agrees (h : p.Settled place text) (ht : text.Plain) : Agrees place text [] p where
  placed _ _ := h.exists_buffer
  sound := Channel.sound_of_idle h.idle h.quiet
  ready := h.ready
  version_ne := version_channel_ne_zero.mpr h.isOpen
  changes who e he := by
    cases (h.quiet who).symm.trans he
  plain := by
    have hx : (p.channel place).text = text := h.text_eq
    rwa [hx]
  calls := by
    have hq : (p.channel place).turns = .idle := h.idle
    refine ⟨[], trivial, h.text_eq.symm, rfl, ?_⟩
    rw [Channel.pending, Channel.order, hq]
    rfl
  serves before hb := by
    rw [List.append_nil, hb]
    rfl

/-- What a calm step does for a document that its server follows. -/
inductive Step.Does (place : Nat) (x : Step) : Deed → Prop where
  | nothing (recorded : x.recorded? place = none) : x.Does place .nothing
  | call {who : Nat} {uri : String} {next : Document} {events : List ChangeEvent}
    (recorded : x.recorded? place = some next) (plain : next.Plain)
    (serves : serveAll? (x.before.session.buffer place).text.text events = some next.text) :
    x.Does place (.call who uri next events)
  | grant {who : Nat} {uri : String} {events : List ChangeEvent}
    (recorded : x.recorded? place = none) : x.Does place (.grant who uri events)
  | sent {who : Nat} {n : Notice} (recorded : x.recorded? place = none) :
    x.Does place (.sent who n true)

theorem does_calm (h : Agrees place text steps p) (possible : p.move? depth m = some q)
    (calm : Step.Calm place ⟨p, m, q⟩) : Step.Does place ⟨p, m, q⟩ (p.deed place m) := by
  cases moves_of_possible possible with
  | @begin who operation a created begins =>
    have ho := version_channel_ne_zero.mp h.version_ne
    have hr := recorded?_begin place (p.advance who a) created
    rw [deed_begin created]
    obtain ⟨hn, hc⟩ | ⟨uri, next, events, hn, hc, hp, hs⟩ :=
      beginDeed_ready who h.ready ho h.plain (calm.consistent _ _ rfl created)
    · rw [hn]
      exact .nothing (hr.trans hc)
    · rw [hn]
      exact .call (hr.trans hc) hp hs
  | wake paused ended =>
    rw [deed_wake_of_changes h.changes]
    exact .nothing rfl
  | grant paused holds =>
    simp only [deed, paused]
    split
    · exact .grant rfl
    · exact .nothing rfl
  | sent isDelivered outcome paused =>
    have hk := calm.kept
    rw [Step.lost?, settled?_eq place possible] at hk
    dsimp only at hk
    obtain hd | hd := deed_sent_of_changes h.changes paused isDelivered outcome
    · rw [hd]
      exact .nothing rfl
    · rw [hd] at hk ⊢
      cases isDelivered with
      | true => exact .sent rfl
      | false => cases hk
  | _ => exact .nothing rfl

theorem Step.Does.nothing_or_isChange {x : Step} {d : Deed} (h : x.Does place d) :
    d = .nothing ∨ d.isChange = true := by
  cases h with
  | nothing => exact .inl rfl
  | call | grant | sent => exact .inr rfl

theorem Step.Does.plain_text {x : Step} {d : Deed} (h : x.Does place d) {c : Channel}
    (hc : c.text.Plain) : (c.apply d).text.Plain := by
  rw [Channel.text_apply]
  cases h with
  | call recorded plain serves => exact plain
  | nothing | grant | sent => exact hc

/-- What a calm step adds to the changes that were made is what it adds to those that have
arrived or are in the queue. -/
theorem Step.Does.exists_calls {x : Step} {d : Deed} (h : x.Does place d)
    (hs : x.settled? place = d.settled?) (sound : (x.before.channel place).Sound)
    (allowed : (x.before.channel place).Allows d) :
    ∃ calls, Leads (x.before.channel place).text calls ∧
      final (x.before.channel place).text calls = ((x.before.channel place).apply d).text ∧
      calls.map Prod.fst = [x].filterMap (Step.recorded? place) ∧
      arrived place [x] ++ ((x.before.channel place).apply d).pending =
        (x.before.channel place).pending ++ calls.map Prod.snd := by
  have harr (hd : d.settled? = none) : arrived place [x] = [] := by
    simp [arrived, Step.delivered?, hs, hd]
  rw [Channel.text_apply]
  cases h with
  | nothing recorded =>
    refine ⟨[], trivial, rfl, by simp [recorded], ?_⟩
    rw [harr rfl]
    exact (List.append_nil _).symm
  | @call who uri next events recorded plain serves =>
    refine ⟨[(next, events)], ⟨serves, trivial⟩, rfl, by simp [recorded], ?_⟩
    rw [harr rfl]
    exact (sound.call allowed.1 uri next events).2
  | @grant who uri events recorded =>
    refine ⟨[], trivial, rfl, by simp [recorded], ?_⟩
    rw [harr rfl, List.map_nil, List.append_nil]
    exact (sound.grant allowed.1 allowed.2 uri).2
  | @sent who n recorded =>
    obtain ⟨events, hn, hp⟩ := (sound.sent allowed true).2
    have hone : arrived place [x] = [events] := by
      simp [arrived, Step.delivered?, hs, Deed.settled?, hn]
    refine ⟨[], trivial, rfl, by simp [recorded], ?_⟩
    rw [hone, hp, List.map_nil, List.append_nil]
    rfl

theorem arrived_append (place : Nat) (steps more : List Step) :
    arrived place (steps ++ more) = arrived place steps ++ arrived place more := by
  simp [arrived]

/-- What a server holds after a step in which it is not told a whole text. -/
theorem held_concat {x : Step} (h : ∀ n, x.delivered? place = some n → n.isChange = true) :
    held place (steps ++ [x]) =
      (held place steps).bind (serveAll? · (arrived place [x]).flatten) := by
  cases hx : x.delivered? place with
  | none => simp [held, arrived, hx, serveAll?]
  | some n =>
    cases n with
    | changed uri version events => simp [held, arrived, hx, heldAfter, Notice.batch?]
    | opened | initialized | direct => cases h _ hx

/-- A calm step keeps the server in agreement with the document. -/
theorem agrees_move (h : Agrees place text steps p) (possible : p.move? depth m = some q)
    (calm : Step.Calm place ⟨p, m, q⟩) : Agrees place text (steps ++ [⟨p, m, q⟩]) q := by
  obtain ⟨hq, ha, hplaced⟩ := follows_move possible h.placed
  have hd := does_calm h possible calm
  have hs := settled?_eq place (x := ⟨p, m, q⟩) possible
  have hsound := h.sound.apply ha
  obtain ⟨calls, hl, hf, hfst, hsnd⟩ := h.calls
  obtain ⟨more, hl', hf', hfst', hsnd'⟩ := hd.exists_calls hs h.sound ha
  dsimp only at hs hl' hf' hsnd'
  rw [← hq] at hsound hf' hsnd'
  refine ⟨hplaced, hsound, isReady_move possible h.ready calm.unclosed, ?_, ?_, ?_, ?_, ?_⟩
  · rw [hq]
    exact Channel.version_apply_ne_zero _ h.version_ne
  · rw [hq]
    exact Channel.isChange_of_apply hd.nothing_or_isChange h.changes
  · rw [hq]
    exact hd.plain_text h.plain
  · refine ⟨calls ++ more, hl.append (hf ▸ hl'), by rw [final_append, hf, hf'], ?_, ?_⟩
    · rw [List.map_append, hfst, hfst', List.filterMap_append]
    · rw [List.map_append, hsnd, arrived_append, List.append_assoc, ← hsnd', List.append_assoc]
  · intro before hb
    have hn (n : Notice) (hx : Step.delivered? place ⟨p, m, q⟩ = some n) : n.isChange = true := by
      rw [Step.delivered?, hs] at hx
      generalize p.deed place m = d at ha hd hx
      cases hd with
      | sent recorded => cases hx; exact h.sound.isChange_of_changing ha
      | nothing | call | grant => cases hx
    rw [← List.append_assoc, held_concat hn, h.serves before hb, arrived_append,
      List.flatten_append, serveAll?_append]

theorem agrees_run (h : p.Settled place text) (ht : text.Plain) (run : Run depth p steps q)
    (calm : ∀ x ∈ steps, x.Calm place) : Agrees place text steps q := by
  induction run with
  | start => exact h.agrees ht
  | next run possible ih =>
    have hq := ih fun x hx => calm x (List.mem_append_left _ hx)
    exact agrees_move hq possible (calm _ (List.mem_append_right _ (List.mem_singleton_self _)))

/-- The text beside the last batch that has arrived is the one that the server holds. -/
theorem Agrees.held_eq (h : Agrees place text steps q) {before : List Step}
    (hb : held place before = some text.text) :
    ∃ t, (texts place text steps)[(arrived place steps).length]? = some t ∧
      held place (before ++ steps) = some t.text := by
  obtain ⟨calls, hl, hf, hfst, hsnd⟩ := h.calls
  have htexts : texts place text steps = text :: calls.map Prod.fst := by rw [texts, hfst]
  have hlen : (arrived place steps).length ≤ calls.length := by
    have hs := congrArg List.length hsnd
    rw [List.length_map, List.length_append] at hs
    omega
  have hs := hl.serveAll? hlen
  rw [hsnd, List.take_left, ← htexts, ← h.serves before hb] at hs
  have hk : (arrived place steps).length < (texts place text steps).length := by
    rw [htexts, List.length_cons, List.length_map]
    omega
  rw [List.getElem?_eq_getElem hk] at hs ⊢
  exact ⟨_, rfl, hs⟩

theorem Agrees.getLast?_texts (h : Agrees place text steps q) :
    (texts place text steps).getLast? = some (q.session.buffer place).text := by
  obtain ⟨calls, -, hf, hfst, -⟩ := h.calls
  rw [texts, ← hfst, List.getLast?_eq_some_getLast (List.cons_ne_nil _ _), ← final_eq_getLast, hf]
  rfl

/-- When nothing is queued or on its way, the server holds the text of the document. -/
theorem Agrees.held_eq_of_quiet (h : Agrees place text steps q) {before : List Step}
    (hb : held place before = some text.text) (hq : ∀ who, q.errand place who = none) :
    held place (before ++ steps) = some (q.session.buffer place).text.text := by
  obtain ⟨t, ht, hs⟩ := h.held_eq hb
  obtain ⟨calls, -, -, hfst, hsnd⟩ := h.calls
  have hlen : (texts place text steps).length - 1 = (arrived place steps).length := by
    have hall := congrArg List.length hsnd
    rw [Channel.pending_eq_nil hq, List.append_nil, List.length_map] at hall
    rw [texts, ← hfst, List.length_cons, List.length_map, ← hall]
    rfl
  have hlast := h.getLast?_texts
  rw [List.getLast?_eq_getElem?, hlen, ht, Option.some.injEq] at hlast
  rw [hs, hlast]

/-- A server that was told the text of a document follows it through every calm run: after
each step it holds the text that was recorded with the last change that has reached it,
where the changes reach it in the order in which they were made; the last text recorded
is the one of the document, and the server holds it when nothing is on its way any more. -/
theorem server_agrees {before : List Step} (h : p.Settled place text) (ht : text.Plain)
    (hb : held place before = some text.text) (run : Run depth p steps q)
    (calm : ∀ x ∈ steps, x.Calm place) :
    (∀ first second, steps = first ++ second →
      ∃ t, (texts place text first)[(arrived place first).length]? = some t ∧
        held place (before ++ first) = some t.text) ∧
      (texts place text steps).getLast? = some (q.session.buffer place).text ∧
      ((∀ who, q.errand place who = none) →
        held place (before ++ steps) = some (q.session.buffer place).text.text) := by
  have hq := agrees_run h ht run calm
  refine ⟨?_, hq.getLast?_texts, hq.held_eq_of_quiet hb⟩
  rintro first second rfl
  -- the beginning of a calm run is one
  obtain ⟨r, hr, -⟩ := run.split
  have hfirst := agrees_run h ht hr fun x hx => calm x (List.mem_append_left _ hx)
  exact hfirst.held_eq hb

end

/-- A document is opened on a new session. -/
def opening : List Move :=
  [.command (.create "a" "file:///a" "text" .standard),
    .submit (.openBuffer "a" (.ofText "ab\ncd".toList)), .begin 0, .beginExchange 0,
    .answerExchange 0 (.ok (Wire.ofIntroduced (.object []))), .announceExchange 0 true (.ok ()),
    .wake 0, .sent 0 true (.ok ())]

/-- Two stretches of the document are replaced at once, and it is sent again meanwhile. -/
def typing : List Move :=
  [.submit (.synchronize "a" (.ofText "\nb\nce".toList)
      (some [⟨0, 1, "\n".toList⟩, ⟨4, 5, "e".toList⟩])), .submit (.refresh "a"), .begin 1, .begin 2,
    .sent 1 true (.ok ()), .grant 2, .sent 2 true (.ok ())]

/-- The pool after the document was opened. -/
def opened : Pool :=
  ((ofSession (.start .standard)).run? 0 opening).getD (ofSession (.start .standard))

theorem settled_opened : opened.Settled 0 (.ofText "ab\ncd".toList) where
  exists_buffer := by decide
  ready := rfl
  isOpen := rfl
  text_eq := rfl
  idle := rfl
  quiet who := by
    cases who with
    | zero => rfl
    | succ n => rfl

theorem calm_of_not_begin {place : Nat} {x : Step} (hc : x.after.session.phase ≠ .closed)
    (hk : x.lost? place = none) (hb : ∀ who, x.move ≠ .begin who) : x.Calm place where
  unclosed := hc
  kept := hk
  consistent who _ hm := absurd hm (hb who)

theorem calm_of_begin {place who : Nat} {x : Step} {operation : Operation}
    (hc : x.after.session.phase ≠ .closed) (hm : x.move = .begin who)
    (ht : x.before.tasks[who]? = some (.created operation))
    (hf : x.before.session.Consistent place operation) : x.Calm place where
  unclosed := hc
  kept := by simp only [Step.lost?, Step.settled?, hm]
  consistent other started hm' ht' := by
    rw [hm] at hm'
    cases hm'
    rw [ht] at ht'
    cases ht'
    exact hf

theorem calm_typing : ∀ x ∈ trail 0 opened typing, x.Calm 0 := by
  have hfits : (Document.ofText "ab\ncd".toList).Becomes (.ofText "\nb\nce".toList)
      (some [⟨0, 1, "\n".toList⟩, ⟨4, 5, "e".toList⟩]) := by
    refine ⟨⟨_, rfl, by decide, by decide⟩, ?_⟩
    rintro batch ⟨rfl⟩
    exact ⟨⟨by simp [Splice.AscendingFrom], by decide, by decide, by decide⟩, by decide⟩
  refine List.forall_mem_cons.mpr ⟨?_, List.forall_mem_cons.mpr ⟨?_, List.forall_mem_cons.mpr ⟨?_,
    List.forall_mem_cons.mpr ⟨?_, List.forall_mem_cons.mpr ⟨?_, List.forall_mem_cons.mpr ⟨?_,
      List.forall_mem_cons.mpr ⟨?_, List.forall_mem_nil _⟩⟩⟩⟩⟩⟩⟩
  · exact calm_of_not_begin (by decide) rfl nofun
  · exact calm_of_not_begin (by decide) rfl nofun
  · exact calm_of_begin (by decide) rfl rfl fun _ => hfits
  · exact calm_of_begin (by decide) rfl rfl trivial
  · exact calm_of_not_begin (by decide) rfl nofun
  · exact calm_of_not_begin (by decide) rfl nofun
  · exact calm_of_not_begin (by decide) rfl nofun

/-- Two changes are made before the first has reached the server. -/
theorem server_agrees_typing :
    ((ofSession (.start .standard)).run? 0 opening).isSome = true ∧
      (opened.run? 0 typing).isSome = true ∧
      held 0 (trail 0 (ofSession (.start .standard)) opening) = some "ab\ncd".toList ∧
      held 0 (trail 0 (ofSession (.start .standard)) opening ++ trail 0 opened typing) =
        some "\nb\nce".toList := by
  refine ⟨rfl, rfl, rfl, ?_⟩
  have hb : held 0 (trail 0 (ofSession (.start .standard)) opening) =
      some (Document.ofText "ab\ncd".toList).text := rfl
  have h := server_agrees settled_opened ⟨_, rfl, by decide, by decide⟩ hb (run_trail rfl)
    calm_typing
  refine h.2.2 fun who => ?_
  match who with
  | 0 | 1 | 2 => rfl
  | n + 3 => rfl

end Pool
end EditorLink
