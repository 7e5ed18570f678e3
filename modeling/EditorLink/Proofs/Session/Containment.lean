import EditorLink.Proofs.Session.Complaints
import EditorLink.Proofs.Session.Order
import EditorLink.Proofs.Session.Waiting

/-!
# Failures that do not escape

What goes wrong with a renaming, or with a change of a document and the signature help that
follows it, does not make the operation fail: the host is told about it, once, and signature
help is hidden. This holds as long as the host itself does not fail when it is told, since its
failure is that of the operation then. A failure of the host that is told about a notice that
could not be sent does not matter.
-/
namespace EditorLink

/-- The buffer whose host is told about what goes wrong with an operation, and whether the
operation is about what is typed. -/
def Operation.guarded? : Operation → Option (String × Bool)
  | .update name _ _ _ => some (name, true)
  | .rename name _ _ => some (name, false)
  | _ => none

/-- Whether an operation is over, or waits for something whose failures the host is told. -/
def Progress.isGuarded (place : Nat) (typing : Bool) : Progress → Bool
  | .paused pause => pause.isGuarded place typing
  | .finished _ => true

/-- The text that a document has after an operation that is about what is typed. -/
def Operation.typed? : Operation → Option Document
  | .update _ text _ _ => some text
  | _ => none

namespace Session
section
variable {s t u : Session} {place : Nat} {typing : Bool} {trouble : Option Failure}
  {progress : Progress} {why : Failure}

theorem Meets.isGuarded (h : Meets s place typing trouble (t, progress)) :
    progress.isGuarded place typing = true := by
  generalize ha : (t, progress) = a at h
  cases h with
  | goesOn quiet guarded => cases ha; exact guarded
  | brings quiet | reports quiet hidden => cases ha; rfl

/-- The host that fails when it is told makes the operation fail, and nothing else does. -/
theorem Meets.failed_iff (h : Meets s place typing trouble (t, progress)) :
    progress = .finished (.error why) ↔
      (trouble.bind fun _ => (s.buffer place).options.reportFailure.bind
        (· (t.trace.length - 1))) = some why := by
  generalize ha : (t, progress) = a at h
  cases h with
  | goesOn quiet guarded | brings quiet => cases ha; simp
  | @reports u what r quiet hidden =>
    rw [Option.bind_some, ← quiet.options]
    unfold finishAs reportFailure callHost at ha
    cases hf : (u.buffer place).options.reportFailure with
    | none =>
      rw [hf] at ha
      cases ha
      simp [Except.map]
    | some fails =>
      rw [hf] at ha
      cases ha
      simp only [Option.bind_some, record, List.length_append, List.length_singleton,
        Nat.add_sub_cancel]
      cases fails u.trace.length <;> simp [Except.map]

/-- Signature help is hidden when something goes wrong with it. -/
theorem Meets.tooltip (h : Meets s place true (some why) (t, progress)) :
    (t.buffer place).tooltip = none := by
  generalize ha : (t, progress) = a at h
  cases h with
  | @reports u why r quiet hidden =>
    have hbuffers : (u.reportFailure place why).1.buffers = u.buffers := by
      unfold reportFailure callHost
      split <;> rfl
    cases ha
    rw [buffer, hbuffers]
    exact hidden rfl

end

/-- Nothing but what the host is told about goes wrong with a change that can be told, or with a
renaming, when it begins. -/
theorem meets_begin {s : Session} {depth who place : Nat} {name : String} {typing : Bool}
    {operation : Operation} {a : Advance} (asked : operation.guarded? = some (name, typing))
    (found : s.find? name = some place) (inside : s.Inside place operation)
    (h : s.begin depth who operation = some a) :
    ∃ trouble, s.beginTrouble? operation = trouble.map (place, ·) ∧
      Meets s place typing trouble a := by
  cases operation with
  | update name' text splices cursor =>
    cases asked
    cases h
    obtain ⟨events, he⟩ := exists_eventsOf (s.buffer place).options.incremental
      (s.buffer place).text text splices (by rintro batch rfl; exact inside)
    refine ⟨s.updateTrouble? place text splices cursor, by simp [beginTrouble?, found], ?_⟩
    simp only [inBuffer, found]
    exact meets_update who cursor (find?_lt found) (by rw [he]; rfl)
  | rename name' position newName =>
    cases asked
    cases h
    refine ⟨none, rfl, ?_⟩
    simp only [inBuffer, found]
    exact s.meets_askRename place position newName
  | _ => cases asked

end Session

namespace Pool
open Session

namespace Step

/-- The failure of the host in a step in which it is told what has gone wrong, which is the last
thing that happens in the step. -/
def escaping? (x : Step) : Option Failure :=
  (x.before.trouble? x.move).bind fun f =>
    (x.before.session.buffer f.1).options.reportFailure.bind (· (x.after.session.trace.length - 1))

/-- In a step nothing goes wrong with an operation but what the host is told about. -/
def Meets (who place : Nat) (typing : Bool) (x : Step) : Prop :=
  ∃ (s : Session) (trouble : Option Failure) (progress : Progress),
    (s.buffer place).options = (x.before.session.buffer place).options ∧
    x.before.trouble? x.move = trouble.map (place, ·) ∧
    x.after.tasks[who]? = some (.running progress) ∧
    s.Meets place typing trouble (x.after.session, progress)

end Step

section
variable {depth who place : Nat} {typing : Bool} {settings : Settings} {p q : Pool} {m : Move}
  {steps : List Step} {x : Step} {why : Failure}

theorem Step.Meets.failed_iff (h : x.Meets who place typing) :
    x.after.outcome? who = some (.error why) ↔ x.escaping? = some why := by
  obtain ⟨s, trouble, progress, hoptions, htrouble, htask, hmeets⟩ := h
  have hfailed : progress = .finished (.error why) ↔
      (trouble.bind fun _ => (s.buffer place).options.reportFailure.bind
        (· (x.after.session.trace.length - 1))) = some why := hmeets.failed_iff
  rw [outcome?_eq_some, htask, Step.escaping?, htrouble]
  rw [hoptions] at hfailed
  cases trouble <;> simpa using hfailed

/-- An operation that waits for something whose failures the host is told meets nothing else. -/
theorem meets_move {pause : Pause} (possible : p.move? depth m = some q)
    (about : m.task? = some who) (paused : p.pause? who = some pause)
    (guarded : pause.isGuarded place typing = true) : Step.Meets who place typing ⟨p, m, q⟩ := by
  have hadvance := tasks_advance (pause?_eq_some.mp paused)
  cases moves_of_possible possible with
  | submit | command | beginExchange | answerExchange | announceExchange => cases about
  | begin created begins =>
    cases about
    rw [pause?_eq_none_of_created created] at paused
    cases paused
  | wake paused' ended =>
    cases about
    cases paused'.symm.trans paused
    cases guarded
  | @grant who' other next paused' holds =>
    cases about
    cases paused'.symm.trans paused
    have hg : typing = true ∧ other = place := by simpa [Pause.isGuarded] using guarded
    obtain ⟨rfl, rfl⟩ := hg
    exact ⟨p.session, none, _, rfl, rfl, hadvance _, p.session.meets_sendNow other _ _⟩
  | @sent who' n next isDelivered outcome paused' =>
    cases about
    cases paused'.symm.trans paused
    cases next with
    | finish | opened => cases guarded
    | changed other next =>
      have hg : typing = true ∧ other = place := by simpa [Pause.isGuarded] using guarded
      obtain ⟨rfl, rfl⟩ := hg
      have hmeets := meets_changeSent (deliver p.session isDelivered n) other next outcome
      have hsame : (deliver p.session isDelivered n).buffers = p.session.buffers ∧
          (deliver p.session isDelivered n).capabilities = p.session.capabilities := by
        cases isDelivered <;> exact ⟨rfl, rfl⟩
      have hbuffers := buffers_informed (deliver p.session isDelivered n) other outcome
      refine ⟨_, _, _, ?_, ?_, hadvance _, hmeets⟩
      · rw [buffer, hbuffers, hsame.1]
        rfl
      · simp only [trouble?, paused, buffer, hsame]
  | @answer who' request seconds next answer paused' =>
    cases about
    cases paused'.symm.trans paused
    have htrouble : p.trouble? (.answer who answer) = p.session.answerTrouble? answer next := by
      simp only [trouble?, paused]
    cases next with
    | prepareRename other position newName =>
      have hg : typing = false ∧ other = place := by simpa [Pause.isGuarded] using guarded
      obtain ⟨rfl, rfl⟩ := hg
      exact ⟨p.session, _, _, rfl, htrouble, hadvance _,
        p.session.meets_renamePrepared other position newName answer⟩
    | rename other =>
      have hg : typing = false ∧ other = place := by simpa [Pause.isGuarded] using guarded
      obtain ⟨rfl, rfl⟩ := hg
      exact ⟨p.session, _, _, rfl, htrouble, hadvance _,
        p.session.meets_renameAnswered other answer⟩
    | showHelp other offset whileTyping =>
      cases whileTyping with
      | false => cases guarded
      | true =>
        have hg : typing = true ∧ other = place := by simpa [Pause.isGuarded] using guarded
        obtain ⟨rfl, rfl⟩ := hg
        exact ⟨p.session, _, _, rfl, htrouble, hadvance _,
          p.session.meets_shownHelpAnswered other offset answer⟩
    | _ => cases guarded

/-- An operation whose failures the host is told meets nothing else on its way, and fails only
when the host does. -/
theorem failed_run (run : Run depth p steps q) {progress : Progress}
    (ran : p.tasks[who]? = some (.running progress))
    (guarded : progress.isGuarded place typing = true) :
    (∃ progress, q.tasks[who]? = some (.running progress) ∧
      progress.isGuarded place typing = true) ∧
    (∀ y ∈ steps, y.move.task? = some who → y.Meets who place typing) ∧
    ∀ why, q.outcome? who = some (.error why) ↔ p.outcome? who = some (.error why) ∨
      ∃ y ∈ steps, y.move.task? = some who ∧ y.escaping? = some why := by
  induction run with
  | start => exact ⟨⟨progress, ran, guarded⟩, by simp, by simp⟩
  | @next steps q r m run possible ih =>
    obtain ⟨⟨now, htask, hguarded⟩, hmeets, hfailed⟩ := ih
    by_cases about : m.task? = some who
    · obtain ⟨pause, paused, rfl⟩ := exists_pause_of_task? possible about htask
      have hstep := meets_move possible about paused hguarded
      have hearlier (why : Failure) : ¬ (p.outcome? who = some (.error why) ∨
          ∃ y ∈ steps, y.move.task? = some who ∧ y.escaping? = some why) := by
        rw [← hfailed why, outcome?_eq_some, htask]
        simp
      refine ⟨?_, ?_, fun why => ?_⟩
      · obtain ⟨s, trouble, later, -, -, hlater, h⟩ := hstep
        exact ⟨later, hlater, h.isGuarded⟩
      · simpa [or_imp, forall_and] using ⟨hmeets, fun _ => hstep⟩
      · have hnow : r.outcome? who = some (.error why) ↔ Step.escaping? ⟨q, m, r⟩ = some why :=
          hstep.failed_iff
        constructor
        · intro h
          exact .inr ⟨_, List.mem_append_right _ (List.mem_singleton_self _), about, hnow.mp h⟩
        · rintro (h | ⟨y, hy, hw, he⟩)
          · exact absurd (.inl h) (hearlier why)
          · obtain hy | hy := List.mem_append.mp hy
            · exact absurd (.inr ⟨y, hy, hw, he⟩) (hearlier why)
            · rw [List.mem_singleton.mp hy] at he
              exact hnow.mpr he
    · have hsame : r.tasks[who]? = some (.running now) := by
        obtain h | ⟨hw, -⟩ := task_move possible htask
        · exact h
        · exact absurd hw about
      have houtcome : r.outcome? who = q.outcome? who := by
        rw [outcome?, outcome?, hsame, htask]
      refine ⟨⟨now, hsame, hguarded⟩, ?_, fun why => ?_⟩
      · simpa [or_imp, forall_and, about] using hmeets
      · rw [houtcome, hfailed why]
        simp [or_and_right, exists_or, about]

/-- A step in which a change or a renaming begins meets nothing but what the host is told. -/
theorem meets_begun {operation : Operation} {name : String}
    (possible : x.before.move? depth x.move = some x.after) (begins : x.move = .begin who)
    (begun : x.begun? = some operation) (asked : operation.guarded? = some (name, typing))
    (found : x.before.session.find? name = some place)
    (inside : x.before.session.Inside place operation) : x.Meets who place typing := by
  obtain ⟨p, m, q⟩ := x
  dsimp only at begins possible found inside
  subst begins
  cases moves_of_possible possible with
  | @begin who created' a created starts =>
    rw [begun?_begin _ created] at begun
    cases begun
    obtain ⟨trouble, htrouble, hmeets⟩ := meets_begin asked found inside starts
    refine ⟨p.session, trouble, a.2, rfl, ?_, tasks_advance created a, hmeets⟩
    simp only [trouble?, created, htrouble]

/-- A change gives the document its text when it begins. -/
theorem text_begun {operation : Operation} {name : String} {text : Document}
    (possible : x.before.move? depth x.move = some x.after) (placed : x.before.Placed place)
    (begins : x.move = .begin who) (begun : x.begun? = some operation)
    (asked : operation.guarded? = some (name, typing)) (typed : operation.typed? = some text)
    (found : x.before.session.find? name = some place) :
    (x.after.session.buffer place).text = text := by
  obtain ⟨p, m, q⟩ := x
  dsimp only at begins possible found placed ⊢
  subst begins
  have htext := congrArg Channel.text (follows_move possible placed).result
  rw [Channel.text_apply] at htext
  cases moves_of_possible possible with
  | @begin who created' a created starts =>
    rw [begun?_begin _ created] at begun
    cases begun
    rw [deed_begin created] at htext
    refine Eq.trans htext ?_
    cases operation with
    | update name' given splices cursor =>
      cases asked
      cases typed
      by_cases ht : text = (p.session.buffer place).text
      · simp [beginDeed, ht, Deed.text?, channel, Session.channel]
      · simp [beginDeed, found, ht, text?_synchronizeDeed]
    | _ => cases typed

/-- What goes wrong with an operation that begins with the first of some steps does not escape. -/
structure Contained (who place : Nat) (operation : Operation) (steps : List Step) (q : Pool) :
    Prop where
  /-- The operation does not fail. -/
  unfailing : ∀ why, q.outcome? who ≠ some (.error why)
  /-- Hosts are told about each failure once, when it is met. -/
  told : ∀ y ∈ steps, y.after.session.complaints = y.before.session.complaints ++ y.due
  /-- The document has the new text, if nobody else changes or opens it. -/
  text : ∀ text, operation.typed? = some text →
    (∀ y ∈ steps.tail, y.given? place = none ∧ y.handsOpening place = false) →
      (q.session.buffer place).text = text
  /-- Signature help that goes wrong is hidden. -/
  hidden : operation.typed?.isSome = true → ∀ y ∈ steps, y.move.task? = some who →
    (y.before.trouble? y.move).isSome = true → (y.after.session.buffer place).tooltip = none

/-- What goes wrong with a renaming, or with a change whose splices lie inside the text and with
the signature help that follows it, does not escape, in exactly those runs in which the host does
not fail when it is told about it. -/
theorem contained_iff {first second : List Step} {operation : Operation} {name : String}
    (run : Run depth (ofSession (.start settings)) (first ++ x :: second) q)
    (begins : x.move = .begin who) (begun : x.begun? = some operation)
    (asked : operation.guarded? = some (name, typing))
    (found : x.before.session.find? name = some place)
    (inside : x.before.session.Inside place operation) :
    Contained who place operation (x :: second) q ↔
      ∀ y ∈ x :: second, y.move.task? = some who → y.escaping? = none := by
  obtain ⟨hbefore, hafter⟩ := run.at_step
  have possible := run.step_possible (x := x) (by simp)
  have hplaced : x.before.Placed place := placed_run (placed_start place settings) hbefore
  have hafterPlaced : x.after.Placed place := placed_run hplaced (Run.single possible)
  have about : x.move.task? = some who := by rw [begins]; rfl
  have hx := meets_begun possible begins begun asked found inside
  obtain ⟨s, trouble, progress, -, -, htask, hprogress⟩ := id hx
  obtain ⟨-, hsecond, hlater⟩ := failed_run hafter htask hprogress.isGuarded
  have hmeets : ∀ y ∈ x :: second, y.move.task? = some who → y.Meets who place typing := by
    simpa [about] using ⟨hx, hsecond⟩
  have hfailed (why : Failure) : q.outcome? who = some (.error why) ↔
      ∃ y ∈ x :: second, y.move.task? = some who ∧ y.escaping? = some why := by
    rw [hlater, hx.failed_iff]
    simp [about]
  constructor
  · intro h y hy hw
    by_contra hne
    obtain ⟨why, he⟩ := Option.ne_none_iff_exists'.mp hne
    exact h.unfailing why ((hfailed why).mpr ⟨y, hy, hw, he⟩)
  · intro h
    refine ⟨fun why hq => ?_, fun y hy => ?_, fun text typed quiet => ?_, fun typed y hy hw hs => ?_⟩
    · obtain ⟨y, hy, hw, he⟩ := (hfailed why).mp hq
      rw [h y hy hw] at he
      cases he
    · exact complaints_move (run.step_possible (List.mem_append_right _ hy))
    · have hgiven : given place second = [] :=
        List.filterMap_eq_nil_iff.mpr fun y hy => (quiet y hy).1
      rw [text_run hafterPlaced hafter fun y hy => (quiet y hy).2, hgiven]
      exact text_begun possible hplaced begins begun asked typed found
    · obtain ⟨s, trouble, progress, -, htrouble, -, hy⟩ := hmeets y hy hw
      have htyping : typing = true := by
        cases operation <;> first | (cases asked; rfl) | cases typed
      rw [htrouble, Option.isSome_map] at hs
      obtain ⟨why, rfl⟩ := Option.isSome_iff_exists.mp hs
      subst htyping
      exact hy.tooltip

end
/-- A document is opened in a buffer whose host is told about failures, by a server that renames
symbols and helps behind an opening bracket. -/
def openingWithHost (report : Callback) : List Move :=
  [.command (.create "a" "file:///a" "text" { BufferOptions.standard with
      features := Features.standard.set [(.signatureWhileTyping, true)], reportFailure := report }),
    .submit (.openBuffer "a" (.ofText "a".toList)), .begin 0, .beginExchange 0,
    .answerExchange 0 (.ok (Wire.ofIntroduced (.object [("renameProvider", .bool true),
      ("signatureHelpProvider", .object [("triggerCharacters", .list [.text "("])])]))),
    .announceExchange 0 true (.ok ()), .wake 0, .sent 0 true (.ok ())]

/-- A bracket is typed, which the server does not hear of, and then it does not help. -/
def typingBracket : List Move :=
  openingWithHost .quiet ++ [.submit (.update "a" (.ofText "a(".toList) (some [⟨1, 1, "(".toList⟩]) none),
    .begin 1, .sent 1 false (.error .brokenPipe), .answer 1 (.error .nothingToRename)]

theorem contained_typingBracket :
    ∃ q, (ofSession (.start .standard)).run? 0 typingBracket = some q ∧
      q.session.complaints = [(0, .brokenPipe), (0, .nothingToRename)] ∧
      Contained 1 0 (.update "a" (.ofText "a(".toList) (some [⟨1, 1, "(".toList⟩]) none)
        ((trail 0 (ofSession (.start .standard)) typingBracket).drop 9) q := by
  let steps := trail 0 (ofSession (.start .standard)) typingBracket
  have hsteps : steps = steps.take 9 ++ (steps.drop 9).head (by decide) :: steps.drop 10 := rfl
  have run : ∃ q, (ofSession (.start .standard)).run? 0 typingBracket = some q ∧
      q.session.complaints = [(0, .brokenPipe), (0, .nothingToRename)] ∧
      Run 0 (ofSession (.start .standard)) steps q := ⟨_, rfl, rfl, run_trail rfl⟩
  obtain ⟨q, hq, htold, run⟩ := hsteps ▸ run
  refine ⟨q, hq, htold, ?_⟩
  exact (contained_iff run rfl rfl rfl rfl ⟨by decide, by decide⟩).mpr (by decide)

/-- A renaming fails, and so does the host that is told about it. -/
def renamingWithFailingHost : List Move :=
  openingWithHost (.failing .brokenPipe) ++ [.submit (.rename "a" ⟨0, 0⟩ "b"), .begin 1,
    .answer 1 (.error .nothingToRename)]

theorem not_contained_renamingWithFailingHost :
    ∃ q, (ofSession (.start .standard)).run? 0 renamingWithFailingHost = some q ∧
      q.session.isReady = true ∧
      ¬ Contained 1 0 (.rename "a" ⟨0, 0⟩ "b")
        ((trail 0 (ofSession (.start .standard)) renamingWithFailingHost).drop 9) q :=
  ⟨_, rfl, rfl, fun h => h.unfailing .brokenPipe rfl⟩

end Pool
end EditorLink
