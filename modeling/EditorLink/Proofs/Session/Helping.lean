import EditorLink.Proofs.Document.Correspondence
import EditorLink.Proofs.Document.Landing
import EditorLink.Proofs.Session.Containment
import EditorLink.Proofs.Session.Greeting

/-!
# Where signature help opens

While the user types, signature help is asked for behind a character that the server has named.
The place is counted from the start of the splice that inserts the character, which is an offset
of the text before, but it is taken for one of the text after. So it is the place behind the
character only if the splices in front leave the text as long as it was, unless the same character
was inserted where the place has come to be.
-/
namespace EditorLink
open Splice

/-- A single character is found where it stands. -/
theorem Text.getElem?_of_indexOf? {c : Char} {s : List Char} {k : Nat}
    (h : Text.indexOf? [c] s = some k) : s[k]? = some c := by
  induction s generalizing k with
  | nil => simp [Text.indexOf?] at h
  | cons a rest ih =>
    rw [Text.indexOf?] at h
    split at h
    · rename_i hbegins
      cases h
      have hsame : c = a := by simpa [List.isPrefixOf] using hbegins
      simp [hsame]
    · obtain ⟨j, hj, rfl⟩ := Option.map_eq_some_iff.mp h
      exact ih hj

theorem exists_of_signatureTrigger {inserted : List Char} {start : Int} {characters : List String}
    {t : SignatureTrigger} (single : ∀ c ∈ characters, c.toList.length = 1)
    (h : signatureTrigger inserted start characters = some t) :
    ∃ k : Nat, ∃ c, inserted[k]? = some c ∧ t = ⟨start + k + 1, String.singleton c⟩ := by
  unfold signatureTrigger at h
  split at h
  · cases h
  · obtain ⟨character, hmem, hfound⟩ := List.exists_of_findSome?_eq_some h
    obtain ⟨index, hindex, rfl⟩ := Option.map_eq_some_iff.mp hfound
    obtain ⟨k, hk, ⟨⟩⟩ := Option.bind_eq_some_iff.mp hindex
    obtain ⟨c, hc⟩ := List.length_eq_one_iff.mp (single character hmem)
    rw [hc] at hk
    refine ⟨k, c, Text.getElem?_of_indexOf? hk, ?_⟩
    have hcharacter : character = String.singleton c := String.ext (by simpa using hc)
    rw [hcharacter]

namespace Session

/-- Help opens as far behind the start of some splice as a character stands in what it inserts. -/
theorem exists_of_typedTrigger {characters : List String} {text : Document}
    {splices : List Splice} {t : SignatureTrigger}
    (single : ∀ c ∈ characters, c.toList.length = 1)
    (h : typedTrigger characters text splices = some t) :
    ∃ first s second, ∃ k : Nat, ∃ c, splices = first ++ s :: second ∧
      s.inserted[k]? = some c ∧ t = ⟨s.start + k + 1, String.singleton c⟩ ∧
        t.offset ≤ text.length := by
  obtain ⟨first, s, second, hsplices, hs, -⟩ := List.findSome?_eq_some_iff.mp h
  obtain ⟨htrigger, hlength⟩ := Option.filter_eq_some_iff.mp hs
  obtain ⟨k, c, hk, ht⟩ := exists_of_signatureTrigger single htrigger
  exact ⟨first, s, second, k, c, hsplices, hk, ht, by simpa using hlength⟩

end Session

/-- A request asks for the help that opens because of what was typed. The place is one of the
document `now`. -/
def Request.AsksHelp (characters : List String) (now text : Document)
    (splices : List Splice) (r : Request) : Prop :=
  ∃ t uri position isRetrigger, Session.typedTrigger characters text splices = some t ∧
    now.positionOf t.offset = .ok position ∧
    r = .signatureHelp uri position ⟨some t.character, isRetrigger⟩

/-- Where an operation is that is about what was typed: it waits until it may send the change, or
until this is sent; it has asked for help, or it is over. -/
inductive Progress.Helps (place : Nat) (text : Document) (splices : List Splice)
    (asked : Request → Prop) : Progress → Prop where
  | queued (events : List ChangeEvent) (cursor : Option Int) :
    Helps place text splices asked
      (.paused (.turn place ⟨events, .followTyping text splices cursor⟩))
  | sending (n : Notice) (cursor : Option Int) :
    Helps place text splices asked
      (.paused (.notice n (.changed place (.followTyping text splices cursor))))
  | asking {request : Request} (seconds : Double) (offset : Int) (h : asked request) :
    Helps place text splices asked
      (.paused (.answer request seconds (.showHelp place offset true)))
  | ended (outcome : Except Failure Result) : Helps place text splices asked (.finished outcome)

theorem Progress.Helps.mono {place : Nat} {text : Document} {splices : List Splice}
    {asked more : Request → Prop} {progress : Progress}
    (h : progress.Helps place text splices asked) (himp : ∀ r, asked r → more r) :
    progress.Helps place text splices more := by
  cases h with
  | queued events cursor => exact .queued events cursor
  | sending n cursor => exact .sending n cursor
  | asking seconds offset h => exact .asking seconds offset (himp _ h)
  | ended outcome => exact .ended outcome

namespace Session
variable {s : Session} {place : Nat} {text : Document} {splices : List Splice}
  {asked : Request → Prop}

theorem helps_helpFailed (s : Session) (place : Nat) (why : Failure) :
    (s.helpFailed place true why).2.Helps place text splices asked := .ended _

theorem helps_putHelp (s : Session) (place : Nat) (offset : Int) (help : Option SignatureHelp) :
    (s.putHelp place offset true help).2.Helps place text splices asked := by
  unfold putHelp
  dsimp only
  split
  · exact s.helps_helpFailed place _
  · exact .ended _
  · exact .ended _

theorem helps_shownHelpAnswered (s : Session) (place : Nat) (offset : Int)
    (answer : Except Failure Value) :
    (s.shownHelpAnswered place offset true answer).2.Helps place text splices asked := by
  unfold shownHelpAnswered
  split
  · exact s.helps_helpFailed place _
  · exact s.helps_putHelp place offset _

theorem helps_followTyping (s : Session) (place : Nat) (text : Document) (splices : List Splice)
    (cursor : Option Int) :
    (s.followTyping place text splices cursor).2.Helps place text splices
      (Request.AsksHelp (ServerCapabilities.signatureCharacters s.capabilities)
        (s.buffer place).text text splices) := by
  unfold followTyping
  dsimp only
  split
  · exact .ended _
  · split
    · rename_i t trigger
      unfold askHelp
      split
      · exact s.helps_helpFailed place _
      · rename_i position there
        split
        · exact .asking _ _ ⟨t, _, position, _, trigger, there, rfl⟩
        · exact s.helps_putHelp place _ none
    · split
      · exact .ended _
      · split
        · exact s.helps_helpFailed place _
        · exact .ended _
        · exact .ended _

/-- When a change was sent, or could not be sent, help follows in the text as it is then. -/
theorem helps_changeSent (s : Session) (place : Nat) (text : Document) (splices : List Splice)
    (cursor : Option Int) (outcome : Except Failure Unit) :
    (s.changeSent place (.followTyping text splices cursor) outcome).2.Helps place text splices
      (Request.AsksHelp (ServerCapabilities.signatureCharacters s.capabilities)
        (s.buffer place).text text splices) := by
  let t := (s.informed place outcome).modify place fun b => { b with turns := b.turns.leave }
  have hsent : s.changeSent place (.followTyping text splices cursor) outcome =
      t.followTyping place text splices cursor := by
    cases outcome <;> rfl
  have hmap : t.buffers.map (·.text) = (s.informed place outcome).buffers.map (·.text) :=
    map_modify _ place _ (·.text) fun _ => rfl
  rw [buffers_informed] at hmap
  have htext : (t.buffer place).text = (s.buffer place).text := buffer_eq_of_map hmap place
  have hcapabilities : t.capabilities = s.capabilities := s.capabilities_informed place outcome
  rw [hsent, ← hcapabilities, ← htext]
  exact t.helps_followTyping place text splices cursor

theorem helps_send (s : Session) (who place : Nat) (events : List ChangeEvent) (text : Document)
    (splices : List Splice) (cursor : Option Int) :
    (s.send who place events (.followTyping text splices cursor)).2.Helps place text splices
      (Request.AsksHelp (ServerCapabilities.signatureCharacters s.capabilities)
        (s.buffer place).text text splices) := by
  unfold send
  dsimp only
  split
  · exact s.helps_followTyping place text splices cursor
  · split
    · exact .sending _ cursor
    · exact .queued events cursor

/-- A change that begins asks for help in the new text, if at once. -/
theorem helps_update (who : Nat) (cursor : Option Int) (hp : place < s.buffers.length) :
    (s.update who place text (some splices) cursor).2.Helps place text splices
      (Request.AsksHelp (ServerCapabilities.signatureCharacters s.capabilities)
        text text splices) := by
  unfold update synchronize
  split
  · exact .ended _
  · dsimp only
    split
    · exact .ended _
    · rename_i events he
      have hsend := (s.modify place fun b => { b with text := text }).helps_send who place events
        text splices cursor
      rwa [buffer_modify_self _ _ hp] at hsend

end Session

namespace Pool
open Session

section
variable {depth who place : Nat} {settings : Settings} {p q : Pool} {m : Move} {steps : List Step}
  {x : Step} {text : Document} {splices : List Splice} {asked : Request → Prop}

/-- What an operation says in a step is what it waits for afterwards. -/
theorem said_of_task? {progress : Progress} (possible : p.move? depth m = some q)
    (about : m.task? = some who) (now : q.tasks[who]? = some (.running progress)) :
    Step.said ⟨p, m, q⟩ = progress.message?.toList := by
  have speaks {P : Prop} {s : Session} {a : Advance} {task : Task}
      (ht : p.tasks[who]? = some task) (hq : q = p.advance who a)
      (hm : s.messages = p.session.messages) (h : Speaks P s a) :
      Step.said ⟨p, m, q⟩ = progress.message?.toList := by
    subst hq
    cases now.symm.trans (tasks_advance ht a)
    have hmessages := h.messages
    rw [hm] at hmessages
    simp [Step.said, advance, hmessages]
  cases moves_of_possible possible with
  | begin created begins =>
    cases about
    exact speaks created rfl rfl (p.session.speaks_begin depth who begins)
  | wake paused ended =>
    cases about
    exact speaks (pause?_eq_some.mp paused) rfl rfl (p.session.speaks_afterHandshake _ _)
  | grant paused holds =>
    cases about
    exact speaks (pause?_eq_some.mp paused) rfl rfl (p.session.speaks_turnCame _ _)
  | @sent who' n next isDelivered outcome paused =>
    cases about
    exact speaks (pause?_eq_some.mp paused) rfl (messages_deliver p.session isDelivered n)
      (speaks_noticeSent _ outcome next)
  | answer answer paused =>
    cases about
    exact speaks (pause?_eq_some.mp paused) rfl rfl (p.session.speaks_answered answer _)
  | _ => cases about

/-- An operation that is about what was typed goes on so. -/
theorem helps_move {progress : Progress} (possible : p.move? depth m = some q)
    (about : m.task? = some who) (ran : p.tasks[who]? = some (.running progress))
    (h : progress.Helps place text splices asked) :
    ∃ later, q.tasks[who]? = some (.running later) ∧ later.Helps place text splices
      (Request.AsksHelp (ServerCapabilities.signatureCharacters p.session.capabilities)
        (p.session.buffer place).text text splices) := by
  obtain ⟨pause, paused, rfl⟩ := exists_pause_of_task? possible about ran
  have hadvance := tasks_advance ran
  cases moves_of_possible possible with
  | submit | command | beginExchange | answerExchange | announceExchange => cases about
  | begin created begins =>
    cases about
    cases ran.symm.trans created
  | wake paused' ended =>
    cases about
    cases paused'.symm.trans paused
    cases h
  | grant paused' holds =>
    cases about
    cases paused'.symm.trans paused
    cases h with
    | queued events cursor => exact ⟨_, hadvance _, .sending _ cursor⟩
  | @sent who' n next isDelivered outcome paused' =>
    cases about
    cases paused'.symm.trans paused
    cases h with
    | sending n cursor =>
      have hsent := (deliver p.session isDelivered n).helps_changeSent place text splices cursor
        outcome
      refine ⟨_, hadvance _, ?_⟩
      cases isDelivered <;> exact hsent
  | answer answer paused' =>
    cases about
    cases paused'.symm.trans paused
    cases h with
    | asking seconds offset h =>
      exact ⟨_, hadvance _, p.session.helps_shownHelpAnswered place offset answer⟩

/-- In each step of an operation that is about what was typed, help is asked for in the text as it
is then. -/
theorem helps_run {progress : Progress} (run : Run depth p steps q)
    (ran : p.tasks[who]? = some (.running progress))
    (h : progress.Helps place text splices fun _ => True) :
    ∀ y ∈ steps, y.move.task? = some who → ∃ later, y.after.tasks[who]? = some (.running later) ∧
      later.Helps place text splices
        (Request.AsksHelp (ServerCapabilities.signatureCharacters y.before.session.capabilities)
          (y.before.session.buffer place).text text splices) := by
  intro y hy about
  obtain ⟨now, hnow, hhelps⟩ := run.invariant_before
    (P := fun p => ∃ progress, p.tasks[who]? = some (.running progress) ∧
      progress.Helps place text splices fun _ => True) ⟨progress, ran, h⟩
    (fun z hz ⟨now, hnow, hhelps⟩ => by
      obtain hsame | ⟨hz', -⟩ := task_move (run.step_possible hz) hnow
      · exact ⟨now, hsame, hhelps⟩
      · obtain ⟨later, hlater, hf⟩ := helps_move (run.step_possible hz) hz' hnow hhelps
        exact ⟨later, hlater, hf.mono fun _ _ => trivial⟩) hy
  exact helps_move (run.step_possible hy) about hnow hhelps

/-- A change of a document begins. -/
theorem helps_begun {name : String} {cursor : Option Int}
    (possible : x.before.move? depth x.move = some x.after) (begins : x.move = .begin who)
    (begun : x.begun? = some (.update name text (some splices) cursor))
    (found : x.before.session.find? name = some place) :
    ∃ progress, x.after.tasks[who]? = some (.running progress) ∧
      progress.Helps place text splices
        (Request.AsksHelp (ServerCapabilities.signatureCharacters x.before.session.capabilities)
          text text splices) := by
  obtain ⟨p, m, q⟩ := x
  dsimp only at begins possible found
  subst begins
  cases moves_of_possible possible with
  | @begin who operation a created starts =>
    rw [begun?_begin _ created] at begun
    cases begun
    cases starts
    refine ⟨_, tasks_advance created _, ?_⟩
    simp only [inBuffer, found]
    exact helps_update who cursor (find?_lt found)

/-- A change asks for help only where it opens in the new text, if nobody else gives the document
a text meanwhile. -/
theorem exists_trigger_of_said {first second : List Step} {name uri : String} {cursor : Option Int}
    {y : Step} {position : Position} {context : SignatureContext} {seconds : Double}
    (run : Run depth (ofSession (.start settings)) (first ++ x :: second) q)
    (begins : x.move = .begin who)
    (begun : x.begun? = some (.update name text (some splices) cursor))
    (found : x.before.session.find? name = some place)
    (quiet : ∀ z ∈ second, z.given? place = none ∧ z.handsOpening place = false)
    (hy : y ∈ x :: second) (about : y.move.task? = some who)
    (asks : .requested (.signatureHelp uri position context) seconds ∈ y.said) :
    ∃ t, typedTrigger (ServerCapabilities.signatureCharacters y.before.session.capabilities)
        text splices = some t ∧
      text.positionOf t.offset = .ok position ∧ context.character = some t.character := by
  obtain ⟨hbefore, hafter⟩ := run.at_step
  have possible := run.step_possible (x := x) (by simp)
  have hplaced : x.before.Placed place := placed_run (placed_start place settings) hbefore
  have hafterPlaced : x.after.Placed place := placed_run hplaced (Run.single possible)
  have hbegun := helps_begun possible begins begun found
  have hnow : ∃ later, y.after.tasks[who]? = some (.running later) ∧ later.Helps place text splices
      (Request.AsksHelp (ServerCapabilities.signatureCharacters y.before.session.capabilities)
        text text splices) := by
    obtain rfl | hy := List.mem_cons.mp hy
    · exact hbegun
    · obtain ⟨progress, hprogress, hhelps⟩ := hbegun
      have hthen := helps_run hafter hprogress (hhelps.mono fun _ _ => trivial) y hy about
      -- the document still has the text that the change gave it
      have htext : (y.before.session.buffer place).text = text := by
        obtain ⟨past, future, rfl⟩ := List.append_of_mem hy
        have hgiven : given place past = [] :=
          List.filterMap_eq_nil_iff.mpr fun z hz => (quiet z (by simp [hz])).1
        rw [text_run hafterPlaced hafter.at_step.1 fun z hz => (quiet z (by simp [hz])).2, hgiven]
        exact text_begun possible hplaced begins begun rfl rfl found
      rwa [htext] at hthen
  obtain ⟨later, hlater, hhelps⟩ := hnow
  have hsaid : y.said = later.message?.toList :=
    said_of_task? (run.step_possible (List.mem_append_right _ hy)) about hlater
  rw [hsaid, Option.mem_toList] at asks
  cases hhelps with
  | queued | ended => cases asks
  | sending n cursor => cases asks
  | asking seconds' offset h =>
    obtain ⟨t, uri', position', isRetrigger, trigger, there, rfl⟩ := h
    cases asks
    exact ⟨t, trigger, there, rfl⟩

/-- Help that a change asks for is asked for as far behind the start of a splice as the character
that opens it stands in what the splice inserts. This is the place behind the character, if and
only if the splices in front do not make the text grow or shrink, or the same character was
inserted there elsewhere too. -/
theorem help_behind_iff {first second : List Step} {name uri : String} {cursor : Option Int}
    {y : Step} {position : Position} {context : SignatureContext} {seconds : Double}
    (run : Run depth (ofSession (.start settings)) (first ++ x :: second) q)
    (begins : x.move = .begin who)
    (begun : x.begun? = some (.update name text (some splices) cursor))
    (found : x.before.session.find? name = some place)
    (quiet : ∀ z ∈ second, z.given? place = none ∧ z.handsOpening place = false)
    (ascending : AscendingFrom 0 splices)
    (inside : ∀ s ∈ splices, s.stop ≤ (x.before.session.buffer place).text.length)
    (edits : text.text = applyAtOnce splices (x.before.session.buffer place).text.text)
    (hy : y ∈ x :: second) (about : y.move.task? = some who)
    (single : ∀ c ∈ ServerCapabilities.signatureCharacters y.before.session.capabilities,
      c.toList.length = 1)
    (asks : .requested (.signatureHelp uri position context) seconds ∈ y.said) :
    ∃ earlier s later c, ∃ k offset : Nat, splices = earlier ++ s :: later ∧
      s.inserted[k]? = some c ∧ context.character = some (String.singleton c) ∧
      text.offsetOf? position = some offset ∧ (offset : Int) = s.start + k + 1 ∧
      (InsertsBefore splices (x.before.session.buffer place).text.text text.text c offset ↔
        growth earlier = 0 ∨ ∃ other l, (other ≠ earlier ∨ l ≠ k) ∧
          Lands splices other l c (s.start + k)) := by
  obtain ⟨t, trigger, there, hcharacter⟩ :=
    exists_trigger_of_said run begins begun found quiet hy about asks
  obtain ⟨earlier, s, later, k, c, hsplices, hk, rfl, hlength⟩ :=
    exists_of_typedTrigger single trigger
  dsimp only at there hlength hcharacter
  have h0 := (ascending.bounds s (by simp [hsplices])).1
  have hoffset : ((s.start + k + 1).toNat : Int) = s.start + k + 1 := by omega
  refine ⟨earlier, s, later, c, k, (s.start + k + 1).toNat, hsplices, hk, hcharacter,
    Document.offsetOf?_of_positionOf there, hoffset, ?_⟩
  refine insertsBefore_start_iff ascending ?_ edits ?_ hsplices hk hoffset
  · simpa only [Document.length_text] using inside
  · rw [Document.length_text]
    omega

end

/-- A character is replaced, and a bracket is typed behind it. -/
def typingBehindReplaced : List Move :=
  openingWithHost .quiet ++ [.submit (.update "a" (.ofText "b(".toList)
      (some [⟨0, 1, "b".toList⟩, ⟨1, 1, "(".toList⟩]) none),
    .begin 1, .sent 1 true (.ok ())]

theorem help_behind_replaced :
    ∃ q, (ofSession (.start .standard)).run? 0 typingBehindReplaced = some q ∧
      InsertsBefore [⟨0, 1, "b".toList⟩, ⟨1, 1, "(".toList⟩] "a".toList "b(".toList '(' 2 := by
  let steps := trail 0 (ofSession (.start .standard)) typingBehindReplaced
  have hsteps : steps = steps.take 9 ++ (steps.drop 9).head (by decide) :: steps.drop 10 := rfl
  have run : ∃ q, (ofSession (.start .standard)).run? 0 typingBehindReplaced = some q ∧
      Run 0 (ofSession (.start .standard)) steps q := ⟨_, rfl, run_trail rfl⟩
  obtain ⟨q, hq, run⟩ := hsteps ▸ run
  refine ⟨q, hq, ?_⟩
  let y := (steps.drop 10).head (by decide)
  have asks : .requested (.signatureHelp "file:///a" ⟨0, 2⟩ ⟨some "(", false⟩)
      Settings.standard.seconds ∈ y.said := .head _
  obtain ⟨earlier, s, later, c, k, offset, hsplices, hk, hc, hoffset, -, hbehind⟩ :=
    help_behind_iff run rfl rfl rfl (by decide) (by decide) (by decide) rfl (.tail _ (.head _)) rfl
      (by decide) asks
  cases hoffset
  have hbracket : c = '(' := by
    have hsame := congrArg String.toList (Option.some.inj hc)
    rw [String.toList_singleton] at hsame
    exact (List.cons.inj hsame).1.symm
  -- what stands in front of the bracket replaces one character by one
  have hgrowth : growth earlier = 0 := by
    obtain _ | ⟨r, _ | ⟨t, rest⟩⟩ := earlier
    · rfl
    · cases hsplices
      rfl
    · simp at hsplices
  rw [hbracket] at hbehind
  exact hbehind.mpr (.inl hgrowth)

/-- A character is inserted, and a bracket is typed behind it. -/
def typingBehindInserted : List Move :=
  openingWithHost .quiet ++ [.submit (.update "a" (.ofText "xa(".toList)
      (some [⟨0, 0, "x".toList⟩, ⟨1, 1, "(".toList⟩]) none),
    .begin 1, .sent 1 true (.ok ())]

/-- Help is asked for in front of the bracket then. -/
theorem not_help_behind_inserted :
    ∃ q y, (ofSession (.start .standard)).run? 0 typingBehindInserted = some q ∧
      (trail 0 (ofSession (.start .standard)) typingBehindInserted)[10]? = some y ∧
      .requested (.signatureHelp "file:///a" ⟨0, 2⟩ ⟨some "(", false⟩) Settings.standard.seconds ∈
        y.said ∧
      (Document.ofText "xa(".toList).offsetOf? ⟨0, 2⟩ = some 2 ∧
      ¬ InsertsBefore [⟨0, 0, "x".toList⟩, ⟨1, 1, "(".toList⟩] "a".toList "xa(".toList '(' 2 := by
  refine ⟨_, _, rfl, rfl, .head _, rfl, fun h => ?_⟩
  have hlast := h.getLast?
  revert hlast
  decide

end Pool
end EditorLink
