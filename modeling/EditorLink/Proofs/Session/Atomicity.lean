import EditorLink.Proofs.Session.Agreement

/-!
# Changes that fail

A change of a document fails only as it begins, because the server cannot be told about one of
its splices. It has not been told anything then, but the document has the new text already. So
the same text, given once more, is taken for one that the server knows.
-/
namespace EditorLink

/-- Whether an operation waits to send a change that ends it, or is done. -/
def Progress.isSending : Progress → Bool
  | .paused (.turn _ ⟨_, .finish⟩) | .paused (.notice _ (.changed _ .finish)) => true
  | .finished (.ok .done) => true
  | _ => false

namespace Session
variable {s : Session} {who place : Nat} {text : Document} {splices : Option (List Splice)}

/-- Whether a server can be told how a buffer changes. -/
def CanTell (s : Session) (place : Nat) (splices : Option (List Splice)) : Prop :=
  (s.buffer place).options.incremental = true →
    ∀ batch, splices = some batch → ∀ c ∈ batch, c.Tellable (s.buffer place).text

theorem exists_eventsOf_iff (text : Document) :
    (∃ events, eventsOf (s.buffer place).options.incremental (s.buffer place).text text splices =
      .ok events) ↔ s.CanTell place splices := by
  unfold CanTell
  cases (s.buffer place).options.incremental with
  | false => exact ⟨fun _ => nofun, fun _ => ⟨_, rfl⟩⟩
  | true =>
    cases splices with
    | none => exact ⟨fun _ _ => nofun, fun _ => ⟨_, rfl⟩⟩
    | some batch =>
      rw [eventsOf, Splice.exists_events_iff]
      simp

theorem isSending_send (s : Session) (who place : Nat) (events : List ChangeEvent) :
    (s.send who place events .finish).2.isSending = true := by
  unfold send
  dsimp only
  split
  · rfl
  · split <;> rfl

/-- A change that can be told is on its way at once. -/
theorem synchronize_of_canTell (h : s.CanTell place splices) :
    (s.synchronize who place text splices .finish).2.isSending = true := by
  obtain ⟨events, he⟩ := (exists_eventsOf_iff text).mpr h
  rw [synchronize, he]
  exact isSending_send _ who place events

/-- A change that cannot be told fails, and nothing but the text of the document is new. -/
theorem synchronize_of_not_canTell (who : Nat) (text : Document) (h : ¬ s.CanTell place splices) :
    ∃ why, s.synchronize who place text splices .finish =
      (s.modify place fun b => { b with text := text }).stop why := by
  cases he : eventsOf (s.buffer place).options.incremental (s.buffer place).text text splices with
  | ok events => exact absurd ((exists_eventsOf_iff text).mp ⟨events, he⟩) h
  | error why =>
    exact ⟨why, by rw [synchronize, he]⟩

/-- A text that a document on a ready session does not have is sent as a whole, or waits for its
turn. -/
theorem batch?_update (hr : s.isReady = true) (ho : (s.buffer place).isOpen = true)
    (hp : place < s.buffers.length) (ht : text ≠ (s.buffer place).text) (cursor : Option Int) :
    ((s.update who place text none cursor).2.errand? place).bind Errand.batch? =
      some [.whole text.text] := by
  have hdeed : s.synchronizeDeed who place text none =
      .call who (s.buffer place).uri text [.whole text.text] := by
    have he : eventsOf (s.buffer place).options.incremental (s.buffer place).text text none =
        .ok [.whole text.text] := by
      cases (s.buffer place).options.incremental <;> rfl
    simp [synchronizeDeed, he, sendDeed, hr, ho]
  have hacts : Acts s place who (fun _ => none) (s.update who place text none cursor) _ :=
    acts_update hp rfl text none cursor
  have hwho := congrFun (congrArg Channel.errand hacts.result) who
  rw [if_pos ht, hdeed, Channel.errand_apply_self rfl] at hwho
  have hnext : (s.update who place text none cursor).2.errand? place =
      (s.channel place fun _ => none).next?
        (.call who (s.buffer place).uri text [.whole text.text]) := by
    simpa [Session.channel] using hwho
  rw [hnext, Channel.next?]
  split <;> rfl

end Session

namespace Pool
open Session
variable {depth who place : Nat} {p q r : Pool} {steps : List Step}

/-- An operation that waits to send a change that ends it does not fail. -/
theorem isSending_move {m : Move} (possible : p.move? depth m = some q) {progress : Progress}
    (ran : p.tasks[who]? = some (.running progress)) (h : progress.isSending = true) :
    ∃ progress, q.tasks[who]? = some (.running progress) ∧ progress.isSending = true := by
  obtain hsame | ⟨about, -⟩ := task_move possible ran
  · exact ⟨progress, hsame, h⟩
  obtain ⟨pause, paused, rfl⟩ := exists_pause_of_task? possible about ran
  have hadvance (a : Advance) (ha : a.2.isSending = true) :
      ∃ progress, (p.advance who a).tasks[who]? = some (.running progress) ∧
        progress.isSending = true := ⟨a.2, tasks_advance ran a, ha⟩
  cases moves_of_possible possible with
  | submit | command | beginExchange | answerExchange | announceExchange => cases about
  | begin created begins =>
    cases about
    rw [pause?_eq_none_of_created created] at paused
    cases paused
  | wake paused' ended | answer answer paused' =>
    cases about
    cases paused'.symm.trans paused
    cases h
  | @grant who' other next paused' holds =>
    cases about
    cases paused'.symm.trans paused
    obtain ⟨events, next⟩ := next
    cases next with
    | finish => exact hadvance _ rfl
    | followTyping => cases h
  | @sent who' n next isDelivered outcome paused' =>
    cases about
    cases paused'.symm.trans paused
    cases next with
    | finish | opened => cases h
    | changed other next =>
      cases next with
      | finish => exact hadvance _ rfl
      | followTyping => cases h

theorem isSending_run (run : Run depth p steps q) {progress : Progress}
    (ran : p.tasks[who]? = some (.running progress)) (h : progress.isSending = true) :
    ∃ progress, q.tasks[who]? = some (.running progress) ∧ progress.isSending = true := by
  refine run.invariant (P := fun p => ∃ progress, p.tasks[who]? = some (.running progress) ∧
    progress.isSending = true) ⟨progress, ran, h⟩ ?_
  rintro x hx ⟨now, hnow, hsending⟩
  exact isSending_move (run.step_possible hx) hnow hsending

/-- A call that changes a document has come to nothing: it has failed at once, the document has
the text and the version that it had, nothing could be seen of the call, and a text that is new
to the document can be given again and is sent. -/
structure Undone (who place : Nat) (new : Document) (p r : Pool) : Prop where
  failed : ∃ why, r.outcome? who = some (.error why)
  text : (r.session.buffer place).text = (p.session.buffer place).text
  version : (r.session.buffer place).version = (p.session.buffer place).version
  trace : r.session.trace = p.session.trace
  again : new ≠ (p.session.buffer place).text → r.session.isReady = true →
    (r.session.buffer place).isOpen = true → ∀ other cursor,
      ((r.session.update other place new none cursor).2.errand? place).bind Errand.batch? =
        some [.whole new.text]

/-- A document that has its old text takes a new one, whatever has failed before. -/
theorem undone_of_buffer {new : Document} (failed : ∃ why, r.outcome? who = some (.error why))
    (hb : r.session.buffer place = p.session.buffer place) (ht : r.session.trace = p.session.trace)
    (hp : place < r.session.buffers.length) : Undone who place new p r where
  failed := failed
  text := by rw [hb]
  version := by rw [hb]
  trace := ht
  again hne hr ho _ cursor := batch?_update hr ho hp (hb ▸ hne) cursor

section
variable {name : String} {new : Document} {splices : Option (List Splice)}

theorem begun_synchronize
    (created : p.tasks[who]? = some (.created (.synchronize name new splices)))
    (found : p.session.find? name = some place) (begins : p.move? depth (.begin who) = some r) :
    r = p.advance who (p.session.synchronize who place new splices .finish) := by
  simp only [move?, created, Session.begin, inBuffer, found, Option.map_some, Option.some_inj]
    at begins
  exact begins.symm

/-- A change fails only as it begins, and only if it cannot be told. -/
theorem failed_iff (created : p.tasks[who]? = some (.created (.synchronize name new splices)))
    (found : p.session.find? name = some place) (begins : p.move? depth (.begin who) = some r)
    (run : Run depth r steps q) :
    (∃ why, q.outcome? who = some (.error why)) ↔ ¬ p.session.CanTell place splices := by
  obtain rfl := begun_synchronize created found begins
  have hbegun := tasks_advance created
  constructor
  · rintro ⟨why, hq⟩ htell
    obtain ⟨progress, hprogress, hsending⟩ :=
      isSending_run run (hbegun _) (synchronize_of_canTell htell)
    cases hprogress.symm.trans (outcome?_eq_some.mp hq)
    cases hsending
  · intro htell
    obtain ⟨why, hs⟩ := synchronize_of_not_canTell who new htell
    refine ⟨why, run.invariant (P := fun p => p.outcome? who = some (.error why)) ?_ ?_⟩
    · rw [hs, outcome?_eq_some]
      exact hbegun _
    · exact fun x hx h => outcome?_move (run.step_possible hx) h

/-- What a change that fails leaves behind: nothing but its text is new. -/
theorem session_of_not_canTell
    (created : p.tasks[who]? = some (.created (.synchronize name new splices)))
    (found : p.session.find? name = some place) (begins : p.move? depth (.begin who) = some r)
    (h : ¬ p.session.CanTell place splices) :
    r.session = p.session.modify place fun b => { b with text := new } := by
  obtain rfl := begun_synchronize created found begins
  obtain ⟨why, hs⟩ := synchronize_of_not_canTell who new h
  rw [hs]
  rfl

/-- A change comes to nothing when it fails, if and only if it can be told, so that it does not
fail, or brings no new text. -/
theorem undone_iff (created : p.tasks[who]? = some (.created (.synchronize name new splices)))
    (found : p.session.find? name = some place) (begins : p.move? depth (.begin who) = some r)
    (run : Run depth r steps q) :
    ((∃ why, q.outcome? who = some (.error why)) → Undone who place new p r) ↔
      p.session.CanTell place splices ∨ new = (p.session.buffer place).text := by
  rw [failed_iff created found begins run]
  constructor
  · intro h
    by_cases htell : p.session.CanTell place splices
    · exact .inl htell
    · have htext := (h htell).text
      rw [session_of_not_canTell created found begins htell,
        buffer_modify_self _ _ (find?_lt found)] at htext
      exact .inr htext
  · rintro (htell | rfl) hnot
    · exact absurd htell hnot
    · have hsession := session_of_not_canTell created found begins hnot
      have hp := find?_lt found
      refine undone_of_buffer ((failed_iff created found begins .start).mpr hnot) ?_ ?_ ?_
      · rw [hsession, buffer_modify_self _ _ hp]
      · rw [hsession]; rfl
      · rw [hsession]
        simpa [Session.modify] using hp

end

/-- The pool in which an opened document is to change. -/
def changing (new : Document) (splices : List Splice) : Pool :=
  { opened with tasks := opened.tasks ++ [.created (.synchronize "a" new (some splices))] }

/-- A change that is none, told with a splice behind the end, comes to nothing. -/
theorem undone_unchanged :
    ∃ r, (changing (.ofText "ab\ncd".toList) [⟨9, 9, ['e']⟩]).move? 0 (.begin 1) = some r ∧
      Undone 1 0 (.ofText "ab\ncd".toList)
        (changing (.ofText "ab\ncd".toList) [⟨9, 9, ['e']⟩]) r := by
  let p := changing (.ofText "ab\ncd".toList) [⟨9, 9, ['e']⟩]
  have created : p.tasks[1]? = some (.created
      (.synchronize "a" (.ofText "ab\ncd".toList) (some [⟨9, 9, ['e']⟩]))) := rfl
  have found : p.session.find? "a" = some 0 := rfl
  have begins : ∃ r, p.move? 0 (.begin 1) = some r ∧ (∃ why, r.outcome? 1 = some (.error why)) :=
    ⟨_, rfl, _, rfl⟩
  obtain ⟨r, hr, failed⟩ := begins
  exact ⟨r, hr, (undone_iff created found hr .start).mpr (.inr rfl) failed⟩

/-- A letter is typed and told with a splice behind the end: the call fails, and when the same
text is given again it is not sent. -/
theorem not_undone_typed :
    ∃ r, (changing (.ofText "ab\ncde".toList) [⟨9, 9, ['e']⟩]).move? 0 (.begin 1) = some r ∧
      r.outcome? 1 = some (.error (.offsetOutOfRange 9 5)) ∧
      r.session.isReady = true ∧ (r.session.buffer 0).isOpen = true ∧
      r.session.update 2 0 (.ofText "ab\ncde".toList) none none = r.session.finish .done ∧
      ¬ Undone 1 0 (.ofText "ab\ncde".toList)
        (changing (.ofText "ab\ncde".toList) [⟨9, 9, ['e']⟩]) r := by
  refine ⟨_, rfl, rfl, rfl, rfl, rfl, fun h => ?_⟩
  have htext : Document.ofText "ab\ncde".toList = Document.ofText "ab\ncd".toList := h.text
  exact absurd htext (by decide)

end Pool
end EditorLink
