import EditorLink.Proofs.Completion.Overlap
import EditorLink.Proofs.Document.Places
import EditorLink.Proofs.Session.Run

/-!
# What a completion replaces

A completion replaces the longest end of the line before the cursor with which all its items
begin, or else the word before the cursor. The items were chosen by that word regardless of
case, but the overlap minds the case; so it may cover less than the word.
-/
namespace EditorLink
open Completion

/-- The word characters in which a text ends. -/
def endingWord (before : List Char) : List Char := before.rtakeWhile Character.isWord

theorem suffix_endingWord {before u : List Char} (hu : u <:+ before)
    (hw : u.all Character.isWord = true) : u <:+ endingWord before := by
  obtain ⟨v, rfl⟩ := hu
  have hall : ∀ c ∈ u.reverse, Character.isWord c = true := by simpa using hw
  rw [endingWord, List.rtakeWhile, List.reverse_append, List.takeWhile_append_of_pos hall,
    List.reverse_append, List.reverse_reverse]
  exact List.suffix_append _ _

theorem all_endingWord (before : List Char) : (endingWord before).all Character.isWord = true := by
  rw [List.all_eq_true]
  exact fun c hc => List.mem_rtakeWhile_imp hc

theorem endingWord_suffix (before : List Char) : endingWord before <:+ before :=
  List.rtakeWhile_suffix _ _

namespace Session

/-- On a line the token before the cursor is the word in which the line ends there. -/
theorem wordBefore_eq {before : List Char} (h : '\n' ∉ before) :
    wordBefore before = if endingWord before = [] then none else some (endingWord before) := by
  have hsearch := Pattern.search_of_takesRest (Pattern.takesRest_times .words) h
  have hsuffix := endingWord_suffix before
  rw [wordBefore, Pattern.wordRun, hsearch]
  by_cases hw : endingWord before = []
  · have hnone : before.tails.find? (fun rest =>
        decide (rest ≠ []) && rest.all CharSet.words.holds) = none := by
      rw [List.find?_eq_none]
      rintro t ht htakes
      rw [Bool.and_eq_true, decide_eq_true_eq, funext CharSet.holds_words] at htakes
      have hend := suffix_endingWord ((List.mem_tails t before).mp ht) htakes.2
      rw [hw] at hend
      exact htakes.1 (List.suffix_nil.mp hend)
    rw [hnone, if_pos hw]
    rfl
  · have hsome : before.tails.find? (fun rest =>
        decide (rest ≠ []) && rest.all CharSet.words.holds) = some (endingWord before) := by
      rw [Pattern.find?_tails_eq_some]
      simp only [funext CharSet.holds_words, Bool.and_eq_true, decide_eq_true_eq]
      exact ⟨hsuffix, ⟨hw, all_endingWord before⟩, fun u hu htakes =>
        (suffix_endingWord hu htakes.2).length_le⟩
    rw [hsome, if_neg hw, Option.map_some, Option.map_some]
    dsimp only
    rw [List.take_length, ← List.suffix_iff_eq_drop.mp hsuffix]

/-- A completion replaces the longest overlap of what its items write with the line before the
cursor, or else the word. -/
theorem start_choose (language : String) {before : List Char} (offset : Int)
    (items : List CompletionItem) (h : '\n' ∉ before) :
    (choose language before offset items).start = offset -
      ((overlap? (commonText (choose language before offset items).items) before).getD
        (endingWord before)).length := by
  have hitems : (choose language before offset items).items =
      Completion.rank items (wordBefore before) language := rfl
  rw [hitems, choose]
  dsimp only
  rw [search_overlapPattern _ h, wordBefore_eq h]
  cases ho : overlap? _ before with
  | some t =>
    have hlen := (overlap?_eq_some.mp ho).1.1.length_le
    simp only [Option.map_some, Option.getD_some]
    omega
  | none =>
    by_cases hw : endingWord before = []
    · simp [hw]
    · simp [hw]

/-- What is replaced lies on the line, before the cursor. -/
theorem start_choose_bounds (language : String) {before : List Char} (offset : Int)
    (items : List CompletionItem) (h : '\n' ∉ before) :
    offset - before.length ≤ (choose language before offset items).start ∧
      (choose language before offset items).start ≤ offset := by
  rw [start_choose language offset items h]
  have hlen : ((overlap? (commonText (choose language before offset items).items) before).getD
      (endingWord before)).length ≤ before.length := by
    cases ho : overlap? _ before with
    | some t => exact (overlap?_eq_some.mp ho).1.1.length_le
    | none => exact (endingWord_suffix before).length_le
  omega

theorem textBefore_eq_ok {text : Document} {offset : Int} {before : List Char}
    (h : textBefore text offset = .ok before) :
    ∃ l, text.lineAt offset = .ok l ∧ before = l.text.take (offset - l.start).toNat := by
  unfold textBefore at h
  cases hl : text.lineAt offset with
  | error why => rw [hl] at h; cases h
  | ok l =>
    rw [hl] at h
    cases h
    exact ⟨l, rfl, rfl⟩

theorem textBefore_of_completionPoint {b : Buffer} {characters : List String} {text : Document}
    {offset : Int} {explicit : Bool} {before : List Char} {trigger : CompletionTrigger}
    {position : Position} (h : completionPoint b characters text offset explicit =
      .ok (some (before, trigger, position))) :
    textBefore text offset = .ok before := by
  unfold completionPoint at h
  cases hb : textBefore text offset with
  | error why => rw [hb] at h; cases h
  | ok found =>
    rw [hb] at h
    simp only [bind, Except.bind] at h
    split at h
    · cases h
    · split at h
      · cases h
      · split at h
        · cases h
        · cases h
          rfl

end Session

/-- Where a request for completions at an offset of a text is, and what it brings. -/
inductive Task.Completes (text : Document) (offset : Int) : Task → Prop where
  | created (name : String) (explicit : Bool) :
    Completes text offset (.created (.complete name text offset explicit))
  | asking {place : Nat} {request : Request} {seconds : Double} {before : List Char}
    (line : Session.textBefore text offset = .ok before) :
    Completes text offset
      (.running (.paused (.answer request seconds (.complete place before offset))))
  | failed (why : Failure) : Completes text offset (.running (.finished (.error why)))
  | idle : Completes text offset (.running (.finished (.ok (.completion none))))
  | chosen (language : String) {before : List Char} (items : List CompletionItem)
    (line : Session.textBefore text offset = .ok before) :
    Completes text offset
      (.running (.finished (.ok (.completion
        (some (Session.choose language before offset items))))))

namespace Session
variable {s : Session} {place : Nat} {text : Document} {offset : Int}

theorem completes_askCompletion (s : Session) (place : Nat) (text : Document) (offset : Int)
    (explicit : Bool) :
    Task.Completes text offset (.running (s.askCompletion place text offset explicit).2) := by
  unfold askCompletion
  dsimp only
  split
  · split
    · exact .failed _
    · exact .idle
    · rename_i hpoint
      exact .asking (textBefore_of_completionPoint hpoint)
  · exact .idle

theorem completes_completionAnswered (s : Session) (place : Nat) {before : List Char}
    (answer : Except Failure Value) (line : textBefore text offset = .ok before) :
    Task.Completes text offset (.running (s.completionAnswered place before offset answer).2) := by
  unfold completionAnswered
  split
  · exact .failed _
  · exact .idle
  · exact .chosen _ _ line

end Session

namespace Pool
open Session

/-- The choice that a request for completions has brought, if any. -/
def choice? (p : Pool) (who : Nat) : Option CompletionChoice :=
  match p.outcome? who with
  | some (.ok (.completion choice)) => choice
  | _ => none

section
variable {depth who : Nat} {p q : Pool} {steps : List Step} {text : Document} {offset : Int}

theorem outcome?_of_choice? {choice : CompletionChoice} (h : p.choice? who = some choice) :
    p.outcome? who = some (.ok (.completion (some choice))) := by
  unfold choice? at h
  split at h
  · rename_i ho
    rw [ho, h]
  · cases h

theorem completes_move {m : Move} (possible : p.move? depth m = some q) {task : Task}
    (ht : p.tasks[who]? = some task) (h : task.Completes text offset) :
    ∃ task, q.tasks[who]? = some task ∧ task.Completes text offset := by
  obtain hsame | ⟨about, -⟩ := task_move possible ht
  · exact ⟨task, hsame, h⟩
  have hadvance (a : Advance) (ha : Task.Completes text offset (.running a.2)) :
      ∃ task, (p.advance who a).tasks[who]? = some task ∧ task.Completes text offset :=
    ⟨.running a.2, tasks_advance ht a, ha⟩
  have hpaused {pause : Pause} (hp : p.pause? who = some pause) :
      Task.Completes text offset (.running (.paused pause)) := by
    have htask := pause?_eq_some.mp hp
    rw [ht] at htask
    exact Option.some.inj htask ▸ h
  cases moves_of_possible possible with
  | submit | command | beginExchange | answerExchange | announceExchange => cases about
  | @begin who' operation a created begins =>
    cases about
    cases ht.symm.trans created
    cases h with
    | created name explicit =>
      simp only [Session.begin, inBuffer, Option.some_inj] at begins
      subst begins
      refine hadvance _ ?_
      split
      · exact .failed _
      · exact completes_askCompletion _ _ _ _ _
  | wake paused | grant paused | sent isDelivered outcome paused =>
    cases about
    cases hpaused paused
  | answer answer paused =>
    cases about
    cases hpaused paused with
    | asking line => exact hadvance _ (completes_completionAnswered _ _ answer line)

theorem completes_run (run : Run depth p steps q) {task : Task} (ht : p.tasks[who]? = some task)
    (h : task.Completes text offset) :
    ∃ task, q.tasks[who]? = some task ∧ task.Completes text offset := by
  refine run.invariant (P := fun p => ∃ task, p.tasks[who]? = some task ∧
    task.Completes text offset) ⟨task, ht, h⟩ ?_
  rintro x hx ⟨now, hnow, hcompletes⟩
  exact completes_move (run.step_possible hx) hnow hcompletes

/-- A choice that a request for completions brings replaces a part of the line before the cursor.
It covers the word before the cursor, if and only if the items do not begin with some end of that
word and with no more of the line. -/
theorem covers_word_iff {t : List Char} {name : String} {explicit : Bool}
    {choice : CompletionChoice}
    (created : p.tasks[who]? = some (.created (.complete name (.ofText t) offset explicit)))
    (run : Run depth p steps q)
    (brought : q.choice? who = some choice) :
    ∃ l before, (Document.ofText t).lineAt offset = .ok l ∧
      before = l.text.take (offset - l.start).toNat ∧ (l.start : Int) ≤ choice.start ∧
      (choice.start ≤ offset - (endingWord before).length ↔
        ∀ u, u ≠ [] → u <:+ endingWord before → u <+: commonText choice.items →
          ∃ v, endingWord before <:+ v ∧ v <:+ before ∧ v <+: commonText choice.items) := by
  obtain ⟨task, htask, hcompletes⟩ := completes_run run created (.created name explicit)
  cases htask.symm.trans (outcome?_eq_some.mp (outcome?_of_choice? brought))
  cases hcompletes with
  | @chosen language before items line =>
    obtain ⟨l, hl, hbefore⟩ := textBefore_eq_ok line
    have hstart := (Document.bounds_of_locateFrom (Document.lineAt_eq_ok.mp hl).2 (Nat.zero_le _)).1
    have h0 := (Document.lineAt_eq_ok.mp hl).1
    have hplain : '\n' ∉ before := by
      rw [hbefore]
      exact fun hn => Document.not_mem_of_lineAt hl (List.mem_of_mem_take hn)
    refine ⟨l, before, hl, hbefore, ?_, ?_⟩
    · have hlow := (start_choose_bounds language offset items hplain).1
      have hlen : before.length ≤ (offset - l.start).toNat := by
        rw [hbefore]
        exact List.length_take_le _ _
      omega
    · rw [start_choose language offset items hplain,
        ← le_length_overlap_iff (endingWord_suffix before)]
      omega

end

/-- The pool in which completions behind a text have been asked for, and the server takes such
requests. -/
def completing (text : String) : Pool :=
  ((ofSession (.start .standard)).run? 0
    [.command (.create "a" "file:///a" "text" .standard),
      .submit (.openBuffer "a" (.ofText text.toList)), .begin 0, .beginExchange 0,
      .answerExchange 0 (.ok (Wire.ofIntroduced (.object [("completionProvider", .object [])]))),
      .announceExchange 0 true (.ok ()), .wake 0, .sent 0 true (.ok ()),
      .submit (.complete "a" (.ofText text.toList) text.toList.length true)]).getD
    (ofSession (.start .standard))

/-- The request is sent, and the server offers one item. -/
def offering (label : String) : List Move :=
  [.begin 1, .answer 1 (.ok (.list [.object [("label", .text label)]]))]

/-- The word before the cursor is replaced by one that it begins. -/
theorem covers_word_typed :
    ∃ q choice, (completing "let fo").run? 0 (offering "foo") = some q ∧
      q.choice? 1 = some choice ∧ choice.start ≤ 6 - (endingWord "let fo".toList).length := by
  have hword : endingWord "let fo".toList = "fo".toList := by decide +kernel
  have hrun : ((completing "let fo").run? 0 (offering "foo")).bind (fun q =>
      (q.choice? 1).map fun choice => commonText choice.items) = some "foo".toList := by
    decide +kernel
  obtain ⟨q, hq, hchoice⟩ := Option.bind_eq_some_iff.mp hrun
  obtain ⟨choice, brought, hcommon⟩ := Option.map_eq_some_iff.mp hchoice
  have created : (completing "let fo").tasks[1]? =
      some (.created (.complete "a" (.ofText "let fo".toList) 6 true)) := rfl
  obtain ⟨l, before, hl, hbefore, -, hcovers⟩ := covers_word_iff created (run_trail hq) brought
  have hline : (Document.ofText "let fo".toList).lineAt 6 = .ok ⟨0, 0, "let fo".toList⟩ := rfl
  cases hl.symm.trans hline
  have hsame : before = "let fo".toList := hbefore
  rw [hsame, hword, hcommon] at hcovers
  rw [hword]
  exact ⟨q, choice, hq, brought,
    hcovers.mpr fun u _ _ _ => ⟨"fo".toList, by decide, by decide, by decide⟩⟩

/-- An item that fits the word before the cursor but for its case overlaps with the end of the
word, so that the beginning of the word stays in front of it. -/
theorem not_covers_word_capital :
    ((completing "Aa").run? 0 (offering "aab")).bind (fun q =>
        (q.choice? 1).map fun choice => (choice.start, choice.items.map writtenText)) =
      some (1, ["aab".toList]) ∧
    (endingWord "Aa".toList).length = 2 ∧
    ¬ (1 : Int) ≤ 2 - (endingWord "Aa".toList).length := by
  have hword : (endingWord "Aa".toList).length = 2 := by decide +kernel
  exact ⟨by decide +kernel, hword, by rw [hword]; decide⟩

end Pool
end EditorLink
