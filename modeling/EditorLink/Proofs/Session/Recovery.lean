import EditorLink.Proofs.Session.Agreement

/-!
# Changes after a lost one

Whether or not a change reaches the server, the document keeps its text and the next change
starts from there. A change that is told as splices brings the server to the new text only
if it holds the one before; a change that is told as a whole text makes up for everything
that was lost. So a server is right after each change that reaches it in every run, if the
buffer sends whole texts, and in some run it is not, if the buffer sends splices.
-/
namespace EditorLink
open ChangeEvent

/-- A server is told about an edit in vain only if it holds something else than the editor
had, and the edit is not told as a whole. -/
theorem Edit.Tells.serveAll? {e : Edit} {events : List ChangeEvent} (h : e.Tells events)
    {text : List Char} (ht : text = e.old.text ∨ e.isWhole = true) :
    ChangeEvent.serveAll? text events = some e.new.text := by
  obtain rfl | hw := ht
  · exact h.serves
  · rw [h.whole hw]
    exact serveAll?_singleton _ _

namespace Session
section
variable {s : Session} {place : Nat}

/-- What is taken over by a buffer that sends whole texts is told as a whole. -/
theorem isWhole_of_edit? {operation : Operation} {e : Edit}
    (hi : (s.buffer place).options.incremental = false) (h : s.edit? place operation = some e) :
    e.isWhole = true := by
  have hw (text : Document) (splices : Option (List Splice)) :
      (s.editTo place text splices).isWhole = true := by
    simp [editTo, hi]
  cases operation with
  | update | synchronize | refresh =>
    rw [edit?] at h
    split at h <;> cases h
    exact hw _ _
  | _ => cases h

end

/-! ## How changes are told -/

/-- Buffers are added, and those there are go on telling about changes as they did. -/
structure KeepsMode (s t : Session) : Prop where
  length_le : s.buffers.length ≤ t.buffers.length
  incremental_eq : ∀ place < s.buffers.length,
    (t.buffer place).options.incremental = (s.buffer place).options.incremental

section
variable {s t u : Session}

theorem KeepsMode.trans (h : KeepsMode s t) (h' : KeepsMode t u) : KeepsMode s u :=
  ⟨Nat.le_trans h.length_le h'.length_le, fun place hp =>
    (h'.incremental_eq place (Nat.lt_of_lt_of_le hp h.length_le)).trans (h.incremental_eq place hp)⟩

theorem keepsMode_of_map
    (h : t.buffers.map (·.options.incremental) = s.buffers.map (·.options.incremental)) :
    KeepsMode s t := by
  refine ⟨?_, fun place _ => buffer_eq_of_map h place⟩
  have hl := congrArg List.length h
  rw [List.length_map, List.length_map] at hl
  exact Nat.le_of_eq hl.symm

theorem keepsMode_of_buffers (h : t.buffers = s.buffers) : KeepsMode s t :=
  keepsMode_of_map (by rw [h])

theorem Local.keepsMode (h : Local s t) : KeepsMode s t := by
  obtain ⟨buffers, events, rfl, hb, -⟩ := h
  refine keepsMode_of_map ?_
  have hl := congrArg (List.map fun b : Buffer => b.options.incremental) hb
  rw [List.map_map, List.map_map] at hl
  exact hl

theorem find?_eq_of_names (h : t.buffers.map Buffer.name = s.buffers.map Buffer.name)
    (name : String) : t.find? name = s.find? name := by
  have hview (s : Session) : s.find? name = ((s.buffers.map Buffer.name).zipIdx.reverse.findSome?
      fun x => if x.1 = name then some x.2 else none) := by
    rw [find?, List.findSomeRev?_eq_findSome?_reverse, List.zipIdx_map, ← List.map_reverse,
      List.findSome?_map]
    rfl
  rw [hview, hview, h]

theorem Local.find?_eq (h : Local s t) (name : String) :
    t.find? name = s.find? name := by
  obtain ⟨buffers, events, rfl, hb, -⟩ := h
  refine find?_eq_of_names ?_ name
  have hl := congrArg (List.map Buffer.name) hb
  rw [List.map_map, List.map_map] at hl
  exact hl

theorem Local.isReady_eq (h : Local s t) : t.isReady = s.isReady := by
  obtain ⟨buffers, events, rfl, -⟩ := h
  rfl

theorem keepsMode_onBuffer (s : Session) (name : String) (act : Nat → Session)
    (h : ∀ place, KeepsMode s (act place)) : KeepsMode s (s.onBuffer name act).1 := by
  unfold onBuffer
  split
  · exact keepsMode_of_buffers rfl
  · exact h _

theorem keepsMode_apply (s : Session) (c : Command) : KeepsMode s (s.apply c).1 := by
  cases c with
  | create name uri language options =>
    refine ⟨by simp [apply, create], fun place hp => ?_⟩
    simp [apply, create, buffer, hp, List.getElem?_append_left]
  | attach name =>
    exact s.keepsMode_onBuffer name _ fun place => keepsMode_of_buffers (s.buffers_attach place)
  | detach name =>
    exact s.keepsMode_onBuffer name _ fun place => keepsMode_of_buffers (s.buffers_detach place)
  | close => exact keepsMode_of_buffers s.buffers_close
  | dispose name =>
    refine keepsMode_of_buffers ?_
    unfold apply dispose
    dsimp only
    split <;> rfl
  | setFeatures name changes =>
    exact s.keepsMode_onBuffer name _ fun place =>
      keepsMode_of_map (s.map_modify place _ _ fun _ => rfl)
  | hideTooltip name =>
    exact s.keepsMode_onBuffer name _ fun place => (s.mild_hideTooltip place).local.keepsMode
  | listen | publish | note | fail => exact keepsMode_of_buffers rfl

theorem keepsMode_commands : CommandInvariant KeepsMode where
  refl _ := keepsMode_of_buffers rfl
  trans := KeepsMode.trans
  apply := keepsMode_apply
  showFindings s place push := (s.mild_showFindings place push).local.keepsMode
  heard _ _ _ := keepsMode_of_buffers rfl

theorem keepsMode_handshake (s : Session) (next : AfterHandshake) :
    KeepsMode s (s.handshake next).1 := by
  have hj : KeepsMode s s.joined.1 := keepsMode_of_buffers s.buffers_joined
  unfold handshake
  split
  · exact keepsMode_of_buffers rfl
  · dsimp only
    split
    · exact hj.trans (local_afterHandshake _ _ _).keepsMode
    · exact hj

theorem keepsMode_begin {depth who : Nat} {operation : Operation} {a : Advance}
    (h : s.begin depth who operation = some a) : KeepsMode s a.1 := by
  obtain hl | ⟨command, rfl⟩ | rfl | ⟨name, text, rfl⟩ := s.local_begin depth who h
  · exact hl.keepsMode
  · obtain ⟨b, hb, rfl⟩ := Option.map_eq_some_iff.mp h
    exact keepsMode_commands.perform hb
  · cases h
    exact s.keepsMode_handshake _
  · cases h
    unfold inBuffer
    split
    · exact keepsMode_of_buffers rfl
    · exact s.keepsMode_handshake _

end
end Session

namespace Pool
open Session

/-- The operation that begins in a step gives a document a new text only along with the
splices that make it, and neither opens it nor makes up events for it. -/
def Step.Consistent (place : Nat) (x : Step) : Prop :=
  ∀ operation ∈ x.begun?, x.before.session.Consistent place operation

/-- What an operation that begins in a step makes of a document. -/
def Step.edit? (place who : Nat) (x : Step) : Option Edit :=
  match x.move with
  | .begin other => if other = who then x.begun?.bind (x.before.session.edit? place) else none
  | _ => none

/-- Who has sent the change of a document that reaches the server in a step. -/
def Step.arrives? (place : Nat) (x : Step) : Option Nat :=
  match x.move with
  | .sent who _ _ => if (x.delivered? place).any Notice.isChange then some who else none
  | _ => none

/-- What an operation has made of a document in some steps. An operation begins only once,
so the last such step is the only one. -/
def editOf? (place who : Nat) (steps : List Step) : Option Edit :=
  steps.reverse.findSome? (Step.edit? place who)

/-- Whenever a change of a document reaches the server, the server holds the new text then. -/
def Recovers (place : Nat) (before : List Step) : List Step → Prop :=
  Along (fun past x => ∀ who ∈ x.arrives? place, ∃ e ∈ editOf? place who past,
    held place (before ++ past ++ [x]) = some e.new.text) []

/-- Whenever a change of a document reaches a server that holds the text before it, or some
text if the new one is told as a whole, the server holds the new text then. -/
def Carries (place : Nat) (before : List Step) : List Step → Prop :=
  Along (fun past x => ∀ who ∈ x.arrives? place, ∃ e ∈ editOf? place who past, ∀ text,
    held place (before ++ past) = some text → text = e.old.text ∨ e.isWhole = true →
      held place (before ++ past ++ [x]) = some e.new.text) []

/-- Whoever has still to do something for a document has told, or will tell, about what it
has made of it. -/
structure Honest (place : Nat) (steps : List Step) (p : Pool) : Prop where
  placed : p.Placed place
  plain : (p.channel place).text.Plain
  tells : ∀ who x, p.errand place who = some x →
    ∃ e ∈ editOf? place who steps, ∃ events, x.batch? = some events ∧ e.Tells events

section
variable {depth place who : Nat} {text : Document} {p q : Pool} {steps : List Step} {m : Move}

theorem editOf?_concat (place who : Nat) (steps : List Step) (x : Step) :
    editOf? place who (steps ++ [x]) = (x.edit? place who).or (editOf? place who steps) := by
  unfold editOf?
  rw [List.reverse_concat, List.findSome?_cons]
  cases x.edit? place who <;> rfl

theorem mem_of_editOf? {e : Edit} (h : editOf? place who steps = some e) :
    ∃ x ∈ steps, ∃ operation ∈ x.begun?, x.before.session.edit? place operation = some e := by
  obtain ⟨x, hx, he⟩ := List.exists_of_findSome?_eq_some h
  refine ⟨x, List.mem_reverse.mp hx, ?_⟩
  unfold Step.edit? at he
  split at he
  · split at he
    · exact Option.bind_eq_some_iff.mp he
    · cases he
  · cases he

/-- Whoever has something to do has begun already. -/
theorem edit?_of_errand {x : Errand} (h : p.errand place who = some x) (m : Move) (q : Pool) :
    Step.edit? place who ⟨p, m, q⟩ = none := by
  unfold Step.edit?
  split
  · rename_i other hm
    dsimp only at hm
    subst hm
    split
    · rename_i ho
      subst ho
      rw [begun?_eq_none fun operation created => ?_]
      · rfl
      · cases h.symm.trans (errand_of_created created)
    · rfl
  · rfl

theorem edit?_begin (place : Nat) {operation : Operation} (q : Pool)
    (created : p.tasks[who]? = some (.created operation)) :
    Step.edit? place who ⟨p, .begin who, q⟩ = p.session.edit? place operation := by
  simp only [Step.edit?, if_pos, begun?_begin q created, Option.bind_some]

theorem Settled.honest (h : p.Settled place text) (ht : text.Plain) : Honest place [] p where
  placed _ _ := h.exists_buffer
  plain := by
    have hx : (p.channel place).text = text := h.text_eq
    rwa [hx]
  tells who x hx := by
    cases (h.quiet who).symm.trans hx

/-- What a step does for a document where everybody tells about what it makes of it. -/
inductive Step.Deals (place : Nat) (x : Step) : Deed → Prop where
  | nothing : x.Deals place .nothing
  | keep {text : Document} (plain : text.Plain) : x.Deals place (.keep text)
  | call {who : Nat} {uri : String} {events : List ChangeEvent} {e : Edit}
    (edit : x.edit? place who = some e) (plain : e.new.Plain) (tells : e.Tells events) :
    x.Deals place (.call who uri e.new events)
  | grant (who : Nat) (uri : String) (events : List ChangeEvent) :
    x.Deals place (.grant who uri events)
  | sent (who : Nat) (n : Notice) (isDelivered : Bool) : x.Deals place (.sent who n isDelivered)

theorem Honest.isChange (h : Honest place steps p) {x : Errand}
    (hx : p.errand place who = some x) : x.isChange = true := by
  obtain ⟨e, -, events, hb, -⟩ := h.tells who x hx
  exact Errand.isChange_of_batch? hb

theorem deals_move (h : Honest place steps p) (possible : p.move? depth m = some q)
    (hc : Step.Consistent place ⟨p, m, q⟩) : Step.Deals place ⟨p, m, q⟩ (p.deed place m) := by
  cases moves_of_possible possible with
  | @begin who operation a created begins =>
    have he := edit?_begin place (p.advance who a) created
    have hs := sends_beginDeed who h.plain (hc _ (begun?_begin _ created))
    rw [deed_begin created]
    generalize p.session.beginDeed who place operation = d at hs
    cases hs with
    | nothing edit => exact .nothing
    | keep edit plain deaf => exact .keep plain
    | call edit plain tells => exact .call (he.trans edit) plain tells
  | @wake who number next outcome paused ended =>
    rw [deed_wake_of_changes fun other x => h.isChange]
    exact .nothing
  | grant paused holds =>
    simp only [deed, paused]
    split
    · exact .grant _ _ _
    · exact .nothing
  | @sent who n next isDelivered outcome paused =>
    obtain hd | hd := deed_sent_of_changes (fun other x => h.isChange) paused isDelivered outcome
    · rw [hd]
      exact .nothing
    · rw [hd]
      exact .sent _ _ _
  | _ => exact .nothing

/-- A step in which the document gets a new text only along with what tells about it keeps
everybody honest. -/
theorem honest_move (h : Honest place steps p) (possible : p.move? depth m = some q)
    (hc : Step.Consistent place ⟨p, m, q⟩) : Honest place (steps ++ [⟨p, m, q⟩]) q := by
  obtain ⟨hq, ha, hplaced⟩ := follows_move possible h.placed
  have hd := deals_move h possible hc
  have herr : q.errand place = ((p.channel place).apply (p.deed place m)).errand :=
    congrArg Channel.errand hq
  have htext : (q.channel place).text = (p.deed place m).text?.getD (p.channel place).text := by
    rw [hq, Channel.text_apply]
  generalize p.deed place m = d at ha hd herr htext
  refine ⟨hplaced, ?_, fun who x hx => ?_⟩
  · rw [htext]
    cases hd with
    | keep plain | call edit plain tells => exact plain
    | nothing | grant | sent => exact h.plain
  · rw [editOf?_concat]
    rw [herr] at hx
    -- whoever had something to do before has not begun with this step
    have hold {y : Errand} (hy : p.errand place who = some y) :
        ∃ e ∈ (Step.edit? place who ⟨p, m, q⟩).or (editOf? place who steps), ∃ events,
          y.batch? = some events ∧ e.Tells events := by
      rw [edit?_of_errand hy, Option.none_or]
      exact h.tells who y hy
    by_cases hw : d.who? = some who
    · rw [Channel.errand_apply_self hw] at hx
      cases hd with
      | nothing | keep => cases hw
      | @call other uri events e edit plain tells =>
        cases hw
        refine ⟨e, by rw [edit]; rfl, events, ?_, tells⟩
        simp only [Channel.next?] at hx
        split at hx <;> cases hx <;> rfl
      | grant other uri events =>
        cases hw
        cases hx
        exact hold (y := .queue events) ha.1
      | sent => cases hx
    · rw [Channel.errand_apply_of_ne hw] at hx
      exact hold hx

theorem honest_run (h : Honest place [] p) (run : Run depth p steps q)
    (hc : ∀ x ∈ steps, x.Consistent place) : Honest place steps q := by
  induction run with
  | start => exact h
  | next run possible ih =>
    have hq := ih fun x hx => hc x (List.mem_append_left _ hx)
    exact honest_move hq possible (hc _ (List.mem_append_right _ (List.mem_singleton_self _)))

/-- What reaches the server in a step is a change, along with who sent it and what it tells
about. -/
theorem Honest.arrival (h : Honest place steps p) {n : Notice}
    (hx : Step.delivered? place ⟨p, m, q⟩ = some n) :
    ∃ who, Step.arrives? place ⟨p, m, q⟩ = some who ∧ ∃ e ∈ editOf? place who steps,
      ∃ events, n.batch? = some events ∧ e.Tells events := by
  obtain ⟨who, outcome, rfl, hn⟩ := sent_of_delivered? hx
  obtain ⟨x, he, hxn⟩ := Option.bind_eq_some_iff.mp hn
  obtain ⟨e, hedit, events, hb, ht⟩ := h.tells who x he
  have hbatch : n.batch? = some events := by
    cases x with
    | changing sent => cases hxn; exact hb
    | queue => cases hxn
    | await | opening => cases hb
  refine ⟨who, ?_, e, hedit, events, hbatch, ht⟩
  have hc : n.isChange = true := by rw [Notice.isChange, hbatch]; rfl
  simp [Step.arrives?, hx, hc]

theorem held_concat_of_batch? {before : List Step} {x : Step} {n : Notice}
    {events : List ChangeEvent} (hx : x.delivered? place = some n)
    (hb : n.batch? = some events) :
    held place (before ++ [x]) = (held place before).bind (serveAll? · events) := by
  have hn : n.isChange = true := by rw [Notice.isChange, hb]; rfl
  have ha : arrived place [x] = [events] := by simp [arrived, hx, hb]
  rw [held_concat fun other ho => Option.some.inj (hx.symm.trans ho) ▸ hn, ha,
    List.flatten_singleton]

theorem held_concat_of_none {before : List Step} {x : Step} (hx : x.delivered? place = none) :
    held place (before ++ [x]) = held place before := by
  simp [held, hx]

/-- What becomes of the text of the server in a step: either nothing arrives, or it is told
about what an operation makes of the document. -/
theorem Honest.held_concat (h : Honest place steps p) (m : Move) (q : Pool) (before : List Step) :
    (Step.arrives? place ⟨p, m, q⟩ = none ∧
        held place (before ++ [⟨p, m, q⟩]) = held place before) ∨
      ∃ who, Step.arrives? place ⟨p, m, q⟩ = some who ∧ ∃ e ∈ editOf? place who steps,
        ∃ events, e.Tells events ∧
          held place (before ++ [⟨p, m, q⟩]) = (held place before).bind (serveAll? · events) := by
  cases hx : Step.delivered? place ⟨p, m, q⟩ with
  | none =>
    refine .inl ⟨?_, held_concat_of_none hx⟩
    unfold Step.arrives?
    split
    · simp [hx]
    · rfl
  | some n =>
    obtain ⟨who, ha, e, he, events, hb, ht⟩ := h.arrival hx
    exact .inr ⟨who, ha, e, he, events, ht, held_concat_of_batch? hx hb⟩

theorem carries_run (h : Honest place [] p) (run : Run depth p steps q)
    (hc : ∀ x ∈ steps, x.Consistent place) (before : List Step) : Carries place before steps := by
  induction run with
  | start => trivial
  | @next steps q r m run possible ih =>
    have hinit := fun x hx => hc x (List.mem_append_left _ hx)
    refine along_concat.mpr ⟨ih hinit, fun who hw => ?_⟩
    obtain ⟨hn, -⟩ | ⟨other, ho, e, he, events, ht, hheld⟩ :=
      (honest_run h run hinit).held_concat m r (before ++ steps)
    · cases hn.symm.trans hw
    · obtain rfl := Option.some.inj (ho.symm.trans hw)
      refine ⟨e, he, fun text htext hright => ?_⟩
      rw [hheld, htext, Option.bind_some, ht.serveAll? hright]

/-- Where everything is told as a whole, a server that holds any text is right whenever
something arrives. -/
theorem recovers_of_isWhole (h : Honest place [] p) (run : Run depth p steps q)
    (hc : ∀ x ∈ steps, x.Consistent place) {before : List Step}
    (hb : (held place before).isSome = true)
    (hw : ∀ x ∈ steps, ∀ operation e, x.before.session.edit? place operation = some e →
      e.isWhole = true) :
    Recovers place before steps ∧ (held place (before ++ steps)).isSome = true := by
  induction run with
  | start => exact ⟨trivial, by rwa [List.append_nil]⟩
  | @next steps q r m run possible ih =>
    have hinit := fun x hx => hc x (List.mem_append_left _ hx)
    obtain ⟨hpast, hsome⟩ := ih hinit fun x hx => hw x (List.mem_append_left _ hx)
    obtain ⟨text, htext⟩ := Option.isSome_iff_exists.mp hsome
    rw [← List.append_assoc]
    obtain ⟨hn, hheld⟩ | ⟨who, ho, e, he, events, ht, hheld⟩ :=
      (honest_run h run hinit).held_concat m r (before ++ steps)
    · refine ⟨along_concat.mpr ⟨hpast, fun who hx => ?_⟩, hheld ▸ hsome⟩
      cases hn.symm.trans hx
    · obtain ⟨x, hx, operation, -, hedit⟩ := mem_of_editOf? he
      have hwhole := hw x (List.mem_append_left _ hx) operation e hedit
      rw [htext, Option.bind_some, ht.serveAll? (.inr hwhole)] at hheld
      refine ⟨along_concat.mpr ⟨hpast, fun other hx => ?_⟩, by rw [hheld]; rfl⟩
      obtain rfl := Option.some.inj (ho.symm.trans hx)
      exact ⟨e, he, hheld⟩

theorem keepsMode_move (possible : p.move? depth m = some q) :
    KeepsMode p.session q.session := by
  cases moves_of_possible possible with
  | submit operation => exact keepsMode_of_buffers rfl
  | begin created begins => exact keepsMode_begin begins
  | command performs => exact keepsMode_commands.perform performs
  | beginExchange | answerExchange => exact keepsMode_of_buffers (by simp)
  | announceExchange isDelivered outcome announcing =>
    exact keepsMode_of_buffers (buffers_deliver _ _ _)
  | wake paused ended => exact (local_afterHandshake _ _ _).keepsMode
  | grant paused holds => exact (local_turnCame _ _ _).keepsMode
  | sent isDelivered outcome paused =>
    exact (keepsMode_of_buffers (buffers_deliver _ _ _)).trans (local_noticeSent _ _ _).keepsMode
  | answer answer paused => exact (aside_answered _ _ _).mild.local.keepsMode

/-- How the changes of a buffer are told never changes. -/
theorem incremental_run (run : Run depth p steps q) (hp : place < p.session.buffers.length)
    {x : Step} (hx : x ∈ steps) :
    (x.before.session.buffer place).options.incremental =
      (p.session.buffer place).options.incremental := by
  refine (run.invariant_before (P := fun r => KeepsMode p.session r.session)
    (keepsMode_of_buffers rfl) ?_ hx).incremental_eq place hp
  exact fun y hy h => h.trans (keepsMode_move (run.step_possible hy))

end

/-! ## A single update -/

/-- The channel of a document on which one operation has sent a change and nobody waits. -/
def onlyChanging (who : Nat) (uri : String) (version : Nat) (text : Document)
    (events : List ChangeEvent) : Channel :=
  ⟨version, text, ⟨some who, []⟩,
    Function.update (fun _ => none) who (some (.changing (.changed uri version events)))⟩

/-- An update of a document is asked for, begins and is sent at once, and reaches the server
or is lost. -/
structure Updates (depth place : Nat) (name : String) (new : Document)
    (splices : Option (List Splice)) (events : List ChangeEvent) (isDelivered : Bool)
    (p q r t : Pool) : Prop where
  submitted : p.move? depth (.submit (.synchronize name new splices)) = some q
  begun : q.move? depth (.begin p.tasks.length) = some r
  ended : r.move? depth (.sent p.tasks.length isDelivered (.ok ())) = some t
  placed : r.Placed place
  sending : ∃ uri version, version ≠ 0 ∧
    r.channel place = onlyChanging p.tasks.length uri version new events

/-- The steps of an update. -/
def updating (name : String) (new : Document) (splices : Option (List Splice)) (isDelivered : Bool)
    (p q r t : Pool) : List Step :=
  [⟨p, .submit (.synchronize name new splices), q⟩, ⟨q, .begin p.tasks.length, r⟩,
    ⟨r, .sent p.tasks.length isDelivered (.ok ()), t⟩]

section
variable {depth place : Nat} {name : String} {text new : Document}
  {splices : Option (List Splice)} {events : List ChangeEvent} {isDelivered : Bool}
  {p q r t : Pool}

theorem Settled.beginDeed_synchronize (h : p.Settled place text)
    (hn : p.session.find? name = some place)
    (he : eventsOf (p.session.buffer place).options.incremental text new splices = .ok events)
    (who : Nat) :
    p.session.beginDeed who place (.synchronize name new splices) =
      .call who (p.session.buffer place).uri new events := by
  rw [beginDeed, if_pos hn, synchronizeDeed, h.text_eq, he]
  dsimp only
  rw [sendDeed, if_pos]
  simp [h.ready, h.isOpen]

theorem Settled.apply_call (h : p.Settled place text) (who : Nat) (uri : String) :
    (p.channel place).apply (.call who uri new events) =
      onlyChanging who uri ((p.channel place).version + 1) new events := by
  have hidle : (p.channel place).turns = .idle := h.idle
  have herr : (p.channel place).errand = fun _ => none := funext h.quiet
  simp only [Channel.apply, hidle, Turns.idle, Turns.enter, Channel.sendNow, Channel.assign, herr,
    onlyChanging]

theorem notice?_of_onlyChanging {who version : Nat} {uri : String}
    (h : r.channel place = onlyChanging who uri version new events) :
    r.notice? place who = some (.changed uri version events) := by
  have herr : r.errand place who = (onlyChanging who uri version new events).errand who :=
    congrFun (congrArg Channel.errand h) who
  rw [notice?, herr]
  simp [onlyChanging, Errand.notice?]

/-- An update of a settled document can be sent at once. -/
theorem exists_updates (depth : Nat) (h : p.Settled place text)
    (hn : p.session.find? name = some place)
    (he : eventsOf (p.session.buffer place).options.incremental text new splices = .ok events)
    (isDelivered : Bool) :
    ∃ q r t, Updates depth place name new splices events isDelivered p q r t := by
  let q : Pool := { p with tasks := p.tasks ++ [.created (.synchronize name new splices)] }
  have created : q.tasks[p.tasks.length]? = some (.created (.synchronize name new splices)) := by
    simp [q]
  obtain ⟨a, ha⟩ : ∃ a, p.session.begin depth p.tasks.length (.synchronize name new splices) =
      some a := ⟨_, rfl⟩
  have begun : q.move? depth (.begin p.tasks.length) = some (q.advance p.tasks.length a) := by
    simp only [move?, created]
    exact congrArg (Option.map _) ha
  have hq : q.channel place = p.channel place :=
    congrArg (p.session.channel place) (p.errand_submit place _)
  have hfirst : q.Placed place := fun _ _ => h.exists_buffer
  obtain ⟨hr, -, hplaced⟩ := follows_move begun hfirst
  rw [deed_begin created, show q.session = p.session from rfl, h.beginDeed_synchronize hn he, hq,
    h.apply_call] at hr
  obtain ⟨t, ended⟩ := exists_sent depth (notice?_of_onlyChanging hr) isDelivered
  exact ⟨q, _, t, rfl, begun, ended, hplaced, _, _, Nat.succ_ne_zero _, hr⟩

namespace Updates
variable (h : Updates depth place name new splices events isDelivered p q r t)
include h

theorem session_eq : q.session = p.session := by
  cases h.submitted
  rfl

theorem created : q.tasks[p.tasks.length]? = some (.created (.synchronize name new splices)) := by
  cases h.submitted
  simp

theorem run : Run depth p (updating name new splices isDelivered p q r t) t :=
  ((Run.start.next h.submitted).next h.begun).next h.ended

theorem local_begun : Local p.session r.session := by
  cases moves_of_possible h.begun with
  | @begin who operation a created begins =>
    cases h.created.symm.trans created
    rw [h.session_eq] at begins
    obtain hl | ⟨command, hc⟩ | hc | ⟨name, text, hc⟩ := p.session.local_begin depth _ begins
    · exact hl
    · cases hc
    · cases hc
    · cases hc

theorem local_ended : ∃ s, s.buffers = r.session.buffers ∧ s.isReady = r.session.isReady ∧
    Local s t.session := by
  cases moves_of_possible h.ended with
  | @sent who n next isDelivered outcome paused =>
    refine ⟨deliver r.session isDelivered n, buffers_deliver _ _ _, ?_, local_noticeSent _ _ _⟩
    unfold deliver
    split <;> rfl

theorem find?_eq (other : String) : t.session.find? other = p.session.find? other := by
  obtain ⟨s, hb, -, hl⟩ := h.local_ended
  have hs := find?_eq_of_names (congrArg (List.map Buffer.name) hb) other
  rw [hl.find?_eq, hs, h.local_begun.find?_eq]

theorem isReady_eq : t.session.isReady = p.session.isReady := by
  obtain ⟨s, -, hr, hl⟩ := h.local_ended
  rw [hl.isReady_eq, hr, h.local_begun.isReady_eq]

theorem keepsMode : KeepsMode p.session t.session :=
  ((keepsMode_move h.submitted).trans (keepsMode_move h.begun)).trans (keepsMode_move h.ended)

theorem notice?_eq : ∃ uri version,
    r.notice? place p.tasks.length = some (.changed uri version events) := by
  obtain ⟨uri, version, -, hr⟩ := h.sending
  exact ⟨uri, version, notice?_of_onlyChanging hr⟩

theorem isChange {who : Nat} {e : Errand} (he : r.errand place who = some e) :
    e.isChange = true := by
  obtain ⟨uri, version, -, hr⟩ := h.sending
  have hx := congrFun (congrArg Channel.errand hr) who
  rw [show (r.channel place).errand who = some e from he, onlyChanging] at hx
  by_cases hw : who = p.tasks.length
  · simp only [hw, Function.update_self, Option.some.injEq] at hx
    rw [hx]
    rfl
  · simp only [Function.update_of_ne hw, reduceCtorEq] at hx

theorem deed_ended : ∃ n, r.deed place (.sent p.tasks.length isDelivered (.ok ())) =
    .sent p.tasks.length n isDelivered := by
  obtain ⟨uri, version, hn⟩ := h.notice?_eq
  have hs := settled?_eq place (x := ⟨r, _, t⟩) h.ended
  simp only [Step.settled?, hn, Option.map_some] at hs
  cases moves_of_possible h.ended with
  | @sent who n next isDelivered outcome paused =>
    obtain hd | hd := deed_sent_of_changes (fun _ _ => h.isChange) paused isDelivered (.ok ())
    · rw [hd] at hs
      cases hs
    · exact ⟨n, hd⟩

/-- The document is settled again, with the new text. -/
theorem settled (hp : p.Settled place text) : t.Settled place new := by
  obtain ⟨n, hd⟩ := h.deed_ended
  obtain ⟨ht, -, -⟩ := follows_move h.ended h.placed
  obtain ⟨uri, version, hv, hr⟩ := h.sending
  rw [hd, hr] at ht
  have hversion : (t.channel place).version = version := by rw [ht]; rfl
  refine {
    exists_buffer := Nat.lt_of_lt_of_le hp.exists_buffer h.keepsMode.length_le
    ready := h.isReady_eq.trans hp.ready
    isOpen := version_channel_ne_zero.mp (hversion ▸ hv)
    text_eq := congrArg Channel.text ht
    idle := congrArg Channel.turns ht
    quiet := fun who => ?_ }
  have he := congrFun (congrArg Channel.errand ht) who
  simp only [Channel.apply, Channel.assign, onlyChanging, Function.update_idem,
    Function.update_eq_self_iff.mpr] at he
  exact he

theorem consistent (hf : p.session.Consistent place (.synchronize name new splices)) :
    ∀ x ∈ updating name new splices isDelivered p q r t, x.Consistent place := by
  have hbegun : Step.Consistent place ⟨q, .begin p.tasks.length, r⟩ := by
    intro operation ho
    cases (begun?_begin r h.created).symm.trans ho
    rw [h.session_eq]
    exact hf
  have hquiet {x : Step} (hx : x.begun? = none) : x.Consistent place := by
    intro operation ho
    cases hx.symm.trans ho
  refine List.forall_mem_cons.mpr ⟨hquiet rfl, List.forall_mem_cons.mpr ⟨hbegun, ?_⟩⟩
  exact List.forall_mem_singleton.mpr (hquiet rfl)

theorem settled?_ended : ∃ uri version,
    Step.settled? place ⟨r, .sent p.tasks.length isDelivered (.ok ()), t⟩ =
      some (.changed uri version events, isDelivered) := by
  obtain ⟨uri, version, hn⟩ := h.notice?_eq
  exact ⟨uri, version, congrArg (Option.map fun n => (n, isDelivered)) hn⟩

/-- The server is told about an update that is not lost, and of nothing else. -/
theorem held_eq (before : List Step) :
    held place (before ++ updating name new splices isDelivered p q r t) =
      if isDelivered then (held place before).bind (serveAll? · events) else held place before := by
  obtain ⟨uri, version, hs⟩ := h.settled?_ended
  have hquiet : held place (before ++ [⟨p, .submit (.synchronize name new splices), q⟩] ++
      [⟨q, .begin p.tasks.length, r⟩]) = held place before :=
    (held_concat_of_none rfl).trans (held_concat_of_none rfl)
  rw [updating, List.append_cons, List.append_cons, ← hquiet]
  cases isDelivered with
  | false => exact held_concat_of_none (by rw [Step.delivered?, hs])
  | true =>
    exact held_concat_of_batch? (by rw [Step.delivered?, hs]) rfl

end Updates

/-- Where a server recovers, it holds the new text after an update that is not lost. -/
theorem Updates.held_of_recovers (h : Updates depth place name new splices events true p q r t)
    (hn : p.session.find? name = some place) {before past : List Step}
    (hr : Recovers place before (past ++ updating name new splices true p q r t)) :
    held place (before ++ (past ++ updating name new splices true p q r t)) = some new.text := by
  obtain ⟨uri, version, hs⟩ := h.settled?_ended
  have hx : Step.arrives? place ⟨r, .sent p.tasks.length true (.ok ()), t⟩ =
      some p.tasks.length := by
    simp [Step.arrives?, Step.delivered?, hs, Notice.isChange, Notice.batch?]
  have hedit : editOf? place p.tasks.length
      (past ++ [⟨p, .submit (.synchronize name new splices), q⟩] ++
        [⟨q, .begin p.tasks.length, r⟩]) = some (p.session.editTo place new splices) := by
    rw [editOf?_concat, edit?_begin place r h.created, h.session_eq, Session.edit?, if_pos hn]
    rfl
  rw [updating, List.append_cons, List.append_cons] at hr ⊢
  obtain ⟨e, he, hheld⟩ := (along_concat.mp hr).2 _ hx
  cases hedit.symm.trans he
  rwa [← List.append_assoc]

/-- An event for what is inserted at the start of a document finds its place everywhere. -/
theorem serveAll?_insertion (text inserted : List Char) (h : '\r' ∉ text) :
    serveAll? text [.ranged ⟨.behind [], .behind []⟩ inserted none] = some (inserted ++ text) := by
  rw [serveAll?_singleton]
  exact @Splice.serve?_ranged [] text 0 0 h (Nat.le_refl 0) (Nat.le_refl 0) inserted none

/-- A letter is inserted before another one. -/
theorem becomes_insertion {c : Char} (hc : c = 'a' ∨ c = 'b') :
    (Document.ofText [c]).Becomes (.ofText ['c', c]) (some [⟨0, 0, ['c']⟩]) := by
  have hp : '\r' ∉ ['c', c] := by obtain rfl | rfl := hc <;> decide
  have hp' : '\r' ∉ [c] := fun h => hp (List.mem_cons_of_mem _ h)
  refine ⟨⟨_, rfl, hp, Nat.le_of_ble_eq_true rfl⟩, ?_⟩
  rintro batch ⟨rfl⟩
  rw [Document.text_ofText hp, Document.text_ofText hp']
  exact ⟨⟨by simp [Splice.AscendingFrom], by simp, by simp, by simp⟩, rfl⟩

/-- Where a buffer sends splices, an insertion that follows a lost change leaves the server
with another text than the document has. -/
theorem exists_not_recovers (depth : Nat) (h : p.Settled place text) (ht : text.Plain)
    {before : List Step} (hb : held place before = some text.text)
    (hn : p.session.find? name = some place)
    (hi : (p.session.buffer place).options.incremental = true) :
    ∃ steps q, Run depth p steps q ∧ (∀ x ∈ steps, x.Consistent place) ∧
      ¬ Recovers place before steps := by
  have hfirst : ∃ c, (c = 'a' ∨ c = 'b') ∧ text.text ≠ [c] := by
    by_cases ha : text.text = ['a']
    · exact ⟨'b', .inr rfl, by rw [ha]; decide⟩
    · exact ⟨'a', .inl rfl, ha⟩
  obtain ⟨c, hc, hne⟩ := hfirst
  have hplain : (Document.ofText [c]).Plain := by
    obtain rfl | rfl := hc <;> exact ⟨_, rfl, by decide, by decide⟩
  have hwhole : eventsOf (p.session.buffer place).options.incremental text (.ofText [c]) none =
      .ok [.whole (Document.ofText [c]).text] := by
    rw [hi]
    rfl
  -- the document becomes a single letter, and the server does not hear of it
  obtain ⟨q, r, t, hlost⟩ := exists_updates depth h hn hwhole false
  have hsettled := hlost.settled h
  have hname : t.session.find? name = some place := (hlost.find?_eq name).trans hn
  have hmode : (t.session.buffer place).options.incremental = true :=
    (hlost.keepsMode.incremental_eq place h.exists_buffer).trans hi
  -- another letter is inserted before it
  have hevents : eventsOf (t.session.buffer place).options.incremental (.ofText [c])
      (.ofText ['c', c]) (some [⟨0, 0, ['c']⟩]) =
        .ok [.ranged ⟨.behind [], .behind []⟩ ['c'] none] := by
    rw [hmode]
    obtain rfl | rfl := hc <;> rfl
  obtain ⟨q', r', t', htold⟩ := exists_updates depth hsettled hname hevents true
  refine ⟨_, t', hlost.run.append htold.run, ?_, fun hr => ?_⟩
  · refine List.forall_mem_append.mpr ⟨hlost.consistent ?_, htold.consistent ?_⟩
    · intro _
      exact ⟨hplain, nofun⟩
    · intro _
      rw [hsettled.text_eq]
      exact becomes_insertion hc
  · have hright := htold.held_of_recovers hname hr
    obtain ⟨s, rfl, hs, -⟩ := ht
    rw [Document.text_ofText hs] at hb hne
    have hpair : (Document.ofText ['c', c]).text = ['c', c] := by obtain rfl | rfl := hc <;> rfl
    rw [← List.append_assoc, htold.held_eq, if_pos rfl, hlost.held_eq, if_neg nofun, hb,
      Option.bind_some, serveAll?_insertion _ _ hs, hpair, Option.some.injEq] at hright
    exact hne (List.cons.inj hright).2

/-- However many changes are lost: a change that reaches a server which holds the text before
it, or some text if the new one is told as a whole, leaves the server with the new text. And
a server recovers from every loss in every run exactly if the buffer sends whole texts. -/
theorem recovers_iff_whole (depth : Nat) {before : List Step} (h : p.Settled place text)
    (ht : text.Plain) (hb : held place before = some text.text)
    (hn : p.session.find? name = some place) :
    (∀ steps q, Run depth p steps q → (∀ x ∈ steps, x.Consistent place) →
      Carries place before steps) ∧
    ((∀ steps q, Run depth p steps q → (∀ x ∈ steps, x.Consistent place) →
        Recovers place before steps) ↔
      (p.session.buffer place).options.incremental = false) := by
  have hhonest := h.honest ht
  refine ⟨fun steps q run hc => carries_run hhonest run hc before, fun hall => ?_, ?_⟩
  · rw [← Bool.not_eq_true]
    intro hi
    obtain ⟨steps, q, run, hc, hnot⟩ := exists_not_recovers depth h ht hb hn hi
    exact hnot (hall steps q run hc)
  · intro hi steps q run hc
    refine (recovers_of_isWhole hhonest run hc (by rw [hb]; rfl) ?_).1
    intro x hx operation e he
    exact isWhole_of_edit? ((incremental_run run h.exists_buffer hx).trans hi) he

end
/-- The document is opened in a buffer that sends whole texts. -/
def openingWhole : List Move :=
  .command (.create "a" "file:///a" "text" { BufferOptions.standard with incremental := false }) ::
    opening.tail

/-- The pool after the document was opened in a buffer that sends whole texts. -/
def openedWhole : Pool :=
  ((ofSession (.start .standard)).run? 0 openingWhole).getD (ofSession (.start .standard))

/-- A letter is typed and the server does not hear of it, then another one behind it. -/
def losing : List Move :=
  [.submit (.update "a" (.ofText "ab\nxcd".toList) (some [⟨3, 3, "x".toList⟩]) none), .begin 1,
    .sent 1 false (.error (.unknownBuffer "a")),
    .submit (.update "a" (.ofText "ab\nxycd".toList) (some [⟨4, 4, "y".toList⟩]) none), .begin 2,
    .sent 2 true (.ok ())]

theorem settled_openedWhole : openedWhole.Settled 0 (.ofText "ab\ncd".toList) where
  exists_buffer := by decide
  ready := rfl
  isOpen := rfl
  text_eq := rfl
  idle := rfl
  quiet who := by
    cases who with
    | zero => rfl
    | succ n => rfl

theorem becomes_typed :
    (Document.ofText "ab\ncd".toList).Becomes (.ofText "ab\nxcd".toList)
        (some [⟨3, 3, "x".toList⟩]) ∧
      (Document.ofText "ab\nxcd".toList).Becomes (.ofText "ab\nxycd".toList)
        (some [⟨4, 4, "y".toList⟩]) := by
  constructor
  · refine ⟨⟨_, rfl, by decide, by decide⟩, ?_⟩
    rintro batch ⟨rfl⟩
    exact ⟨⟨by simp [Splice.AscendingFrom], by decide, by decide, by decide⟩, by decide⟩
  · refine ⟨⟨_, rfl, by decide, by decide⟩, ?_⟩
    rintro batch ⟨rfl⟩
    exact ⟨⟨by simp [Splice.AscendingFrom], by decide, by decide, by decide⟩, by decide⟩

theorem consistent_losing {p : Pool} (hp : p = opened ∨ p = openedWhole) :
    ∀ x ∈ trail 0 p losing, x.Consistent 0 := by
  have hquiet {x : Step} (hx : x.begun? = none) : x.Consistent 0 := by
    intro operation ho
    cases hx.symm.trans ho
  have htyped {x : Step} {name : String} {text : Document} {splices : Option (List Splice)}
      (hx : x.begun? = some (.update name text splices none))
      (hb : (x.before.session.buffer 0).text.Becomes text splices) : x.Consistent 0 := by
    intro operation ho
    cases hx.symm.trans ho
    exact fun _ => hb
  obtain rfl | rfl := hp <;>
    exact List.forall_mem_cons.mpr ⟨hquiet rfl, List.forall_mem_cons.mpr
      ⟨htyped rfl becomes_typed.1, List.forall_mem_cons.mpr ⟨hquiet rfl, List.forall_mem_cons.mpr
        ⟨hquiet rfl, List.forall_mem_cons.mpr ⟨htyped rfl becomes_typed.2,
          List.forall_mem_singleton.mpr (hquiet rfl)⟩⟩⟩⟩⟩

/-- A whole text makes up for the letter that was lost. -/
theorem recovers_losing :
    (openedWhole.run? 0 losing).isSome = true ∧
      held 0 (trail 0 (ofSession (.start .standard)) openingWhole ++ trail 0 openedWhole losing) =
        some "ab\nxycd".toList ∧
      Recovers 0 (trail 0 (ofSession (.start .standard)) openingWhole)
        (trail 0 openedWhole losing) := by
  refine ⟨rfl, rfl, ?_⟩
  have hb : held 0 (trail 0 (ofSession (.start .standard)) openingWhole) =
      some (Document.ofText "ab\ncd".toList).text := rfl
  have hn : openedWhole.session.find? "a" = some 0 := rfl
  have h := recovers_iff_whole 0 settled_openedWhole ⟨_, rfl, by decide, by decide⟩ hb hn
  exact h.2.mpr rfl _ _ (run_trail rfl) (consistent_losing (.inr rfl))

/-- A letter that is typed after the lost one is all that the server hears of. -/
theorem not_recovers_losing :
    (opened.run? 0 losing).isSome = true ∧ (∀ x ∈ trail 0 opened losing, x.Consistent 0) ∧
      held 0 (trail 0 (ofSession (.start .standard)) opening ++ trail 0 opened losing) =
        some "ab\ncyd".toList ∧
      ¬ Recovers 0 (trail 0 (ofSession (.start .standard)) opening) (trail 0 opened losing) := by
  refine ⟨rfl, consistent_losing (.inl rfl), rfl, ?_⟩
  rintro ⟨-, -, -, -, -, h, -⟩
  obtain ⟨e, he, hheld⟩ := h 2 rfl
  cases he
  revert hheld
  decide

end Pool
end EditorLink
