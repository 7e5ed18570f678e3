import EditorLink.Session.Pool
import Mathlib.Data.List.Induction
import Mathlib.Tactic.Common

/-!
# Runs of a pool

What each move needs and does is told here once. A run is a list of moves that were
possible one after another, each kept with the states around it. What is said of a run
is said of these steps, so that the past of a state can be spoken of.
-/
namespace EditorLink

/-- The operation that a move is about. -/
def Move.task? : Move → Option Nat
  | .begin task | .wake task | .grant task | .sent task _ _ | .answer task _ => some task
  | _ => none

namespace Pool

/-- What a move needs and what comes of it. -/
inductive Moves (depth : Nat) (p : Pool) : Move → Pool → Prop where
  | submit (operation : Operation) :
    Moves depth p (.submit operation) { p with tasks := p.tasks ++ [.created operation] }
  | begin {who : Nat} {operation : Operation} {a : Session.Advance}
    (created : p.tasks[who]? = some (.created operation))
    (begins : p.session.begin depth who operation = some a) :
    Moves depth p (.begin who) (p.advance who a)
  | command {c : Command} {a : Session × Except Failure Unit}
    (performs : p.session.perform depth c = some a) :
    Moves depth p (.command c) { p with session := a.1 }
  | beginExchange {number : Nat} (scheduled : p.session.exchanges[number]? = some .scheduled) :
    Moves depth p (.beginExchange number) { p with session := p.session.beginExchange number }
  | answerExchange {number : Nat} (answer : Except Failure Value)
    (requested : p.session.exchanges[number]? = some .requested) :
    Moves depth p (.answerExchange number answer)
      { p with session := p.session.exchangeAnswered number answer }
  | announceExchange {number : Nat} (isDelivered : Bool) (outcome : Except Failure Unit)
    (announcing : p.session.exchanges[number]? = some .announcing) :
    Moves depth p (.announceExchange number isDelivered outcome)
      { p with session := (deliver p.session isDelivered .initialized).exchangeAnnounced number }
  | wake {who number : Nat} {next : AfterHandshake} {outcome : Except Failure Unit}
    (paused : p.pause? who = some (.exchange number next))
    (ended : (p.session.exchanges[number]?).bind Exchange.outcome? = some outcome) :
    Moves depth p (.wake who) (p.advance who (p.session.afterHandshake next outcome))
  | grant {who place : Nat} {next : AfterTurn} (paused : p.pause? who = some (.turn place next))
    (holds : (p.session.buffer place).turns.holder = some who) :
    Moves depth p (.grant who) (p.advance who (p.session.turnCame place next))
  | sent {who : Nat} {n : Notice} {next : AfterNotice} (isDelivered : Bool)
    (outcome : Except Failure Unit) (paused : p.pause? who = some (.notice n next)) :
    Moves depth p (.sent who isDelivered outcome)
      (p.advance who ((deliver p.session isDelivered n).noticeSent outcome next))
  | answer {who : Nat} {request : Request} {seconds : Double} {next : AfterAnswer}
    (answer : Except Failure Value) (paused : p.pause? who = some (.answer request seconds next)) :
    Moves depth p (.answer who answer) (p.advance who (p.session.answered answer next))

theorem moves_of_possible {depth : Nat} {p q : Pool} {m : Move}
    (possible : p.move? depth m = some q) : Moves depth p m q := by
  cases m with
  | submit operation =>
    cases possible
    exact .submit operation
  | begin who =>
    simp only [move?] at possible
    split at possible
    · obtain ⟨a, ha, rfl⟩ := Option.map_eq_some_iff.mp possible
      exact .begin ‹_› ha
    · cases possible
  | command c =>
    obtain ⟨a, ha, rfl⟩ := Option.map_eq_some_iff.mp possible
    exact .command ha
  | beginExchange number =>
    simp only [move?] at possible
    split at possible <;> cases possible
    exact .beginExchange ‹_›
  | answerExchange number answer =>
    simp only [move?] at possible
    split at possible <;> cases possible
    exact .answerExchange answer ‹_›
  | announceExchange number isDelivered outcome =>
    simp only [move?] at possible
    split at possible <;> cases possible
    exact .announceExchange isDelivered outcome ‹_›
  | wake who =>
    simp only [move?] at possible
    split at possible
    · obtain ⟨outcome, ho, rfl⟩ := Option.map_eq_some_iff.mp possible
      exact .wake ‹_› ho
    · cases possible
  | grant who =>
    simp only [move?] at possible
    split at possible
    · split at possible <;> cases possible
      exact .grant ‹_› ‹_›
    · cases possible
  | sent who isDelivered outcome =>
    simp only [move?] at possible
    split at possible <;> cases possible
    exact .sent isDelivered outcome ‹_›
  | answer who answer =>
    simp only [move?] at possible
    split at possible <;> cases possible
    exact .answer answer ‹_›

theorem pause?_eq_some {p : Pool} {who : Nat} {pause : Pause} :
    p.pause? who = some pause ↔ p.tasks[who]? = some (.running (.paused pause)) := by
  unfold pause?
  split <;> simp_all

theorem pause?_eq_none_of_created {p : Pool} {who : Nat} {operation : Operation}
    (h : p.tasks[who]? = some (.created operation)) : p.pause? who = none := by
  simp [pause?, h]

theorem outcome?_eq_some {p : Pool} {who : Nat} {outcome : Except Failure Result} :
    p.outcome? who = some outcome ↔ p.tasks[who]? = some (.running (.finished outcome)) := by
  unfold outcome?
  split <;> simp_all

/-- An operation that goes on is where it has come to. -/
theorem tasks_advance {p : Pool} {who : Nat} {task : Task} (h : p.tasks[who]? = some task)
    (a : Session.Advance) : (p.advance who a).tasks[who]? = some (.running a.2) := by
  have hw := (List.getElem?_eq_some_iff.mp h).1
  simp [advance, hw]

/-- An operation stays where it is, or goes on by a move that is about it. -/
theorem task_move {depth w : Nat} {p q : Pool} {m : Move} {task : Task}
    (possible : p.move? depth m = some q)
    (h : p.tasks[w]? = some task) :
    q.tasks[w]? = some task ∨
      (m.task? = some w ∧ ∃ progress, q.tasks[w]? = some (.running progress)) := by
  have hw := (List.getElem?_eq_some_iff.mp h).1
  have hadvance (who : Nat) (a : Session.Advance) :
      (p.advance who a).tasks[w]? = some task ∨
        (some who = some w ∧
          ∃ progress, (p.advance who a).tasks[w]? = some (.running progress)) := by
    by_cases ho : who = w
    · subst ho
      exact .inr ⟨rfl, a.2, tasks_advance h a⟩
    · exact .inl (by simp [advance, ho, h])
  cases moves_of_possible possible with
  | submit operation => exact .inl (by simp [List.getElem?_append_left hw, h])
  | command | beginExchange | answerExchange | announceExchange => exact .inl h
  | begin | wake | grant | sent | answer => exact hadvance _ _

/-- An operation that has made a move has begun. -/
theorem running_of_task? {depth who : Nat} {p q : Pool} {m : Move}
    (possible : p.move? depth m = some q) (h : m.task? = some who) :
    ∃ progress, q.tasks[who]? = some (.running progress) := by
  have hadvance (a : Session.Advance) {task : Task} (ht : p.tasks[who]? = some task) :
      ∃ progress, (p.advance who a).tasks[who]? = some (.running progress) :=
    ⟨a.2, tasks_advance ht a⟩
  cases moves_of_possible possible with
  | begin created begins => cases h; exact hadvance _ created
  | wake paused ended => cases h; exact hadvance _ (pause?_eq_some.mp paused)
  | grant paused holds => cases h; exact hadvance _ (pause?_eq_some.mp paused)
  | sent isDelivered outcome paused => cases h; exact hadvance _ (pause?_eq_some.mp paused)
  | answer answer paused => cases h; exact hadvance _ (pause?_eq_some.mp paused)
  | _ => cases h

/-- Only an operation that waits goes on. -/
theorem exists_pause_of_task? {depth who : Nat} {p q : Pool} {m : Move} {progress : Progress}
    (possible : p.move? depth m = some q) (about : m.task? = some who)
    (ran : p.tasks[who]? = some (.running progress)) :
    ∃ pause, p.pause? who = some pause ∧ progress = .paused pause := by
  have hpaused {pause : Pause} (h : p.pause? who = some pause) :
      ∃ pause, p.pause? who = some pause ∧ progress = .paused pause := by
    have htask := pause?_eq_some.mp h
    rw [ran] at htask
    cases htask
    exact ⟨pause, h, rfl⟩
  cases moves_of_possible possible with
  | submit | command | beginExchange | answerExchange | announceExchange => cases about
  | begin created begins =>
    cases about
    rw [ran] at created
    cases created
  | wake paused | grant paused | sent isDelivered outcome paused | answer answer paused =>
    cases about
    exact hpaused paused

/-- An operation that is over makes no move. -/
theorem task?_ne_of_finished {depth who : Nat} {p q : Pool} {m : Move}
    {outcome : Except Failure Result} (possible : p.move? depth m = some q)
    (h : p.outcome? who = some outcome) : m.task? ≠ some who := by
  intro about
  obtain ⟨pause, -, hp⟩ := exists_pause_of_task? possible about (outcome?_eq_some.mp h)
  cases hp

/-- Whoever is over stays so. -/
theorem outcome?_move {depth who : Nat} {p q : Pool} {m : Move} {outcome : Except Failure Result}
    (possible : p.move? depth m = some q) (h : p.outcome? who = some outcome) :
    q.outcome? who = some outcome := by
  obtain hq | ⟨about, -⟩ := task_move possible (outcome?_eq_some.mp h)
  · exact outcome?_eq_some.mpr hq
  · exact absurd about (task?_ne_of_finished possible h)

/-- One move of a run with the states before and after it. -/
structure Step where
  before : Pool
  move : Move
  after : Pool

/-- The operation that begins in a step. -/
def Step.begun? (x : Step) : Option Operation :=
  match x.move with
  | .begin who =>
    match x.before.tasks[who]? with
    | some (.created operation) => some operation
    | _ => none
  | _ => none

theorem begun?_begin {p : Pool} {who : Nat} {operation : Operation} (q : Pool)
    (created : p.tasks[who]? = some (.created operation)) :
    Step.begun? ⟨p, .begin who, q⟩ = some operation := by
  simp only [Step.begun?, created]

theorem begun?_eq_none {p : Pool} {who : Nat} {q : Pool}
    (h : ∀ operation, p.tasks[who]? ≠ some (.created operation)) :
    Step.begun? ⟨p, .begin who, q⟩ = none := by
  unfold Step.begun?
  dsimp only
  split
  · exact absurd ‹_› (h _)
  · rfl

/-- The steps that lead from one state to another. -/
inductive Run (depth : Nat) (p : Pool) : List Step → Pool → Prop where
  | start : Run depth p [] p
  | next {steps : List Step} {q r : Pool} {m : Move} (run : Run depth p steps q)
      (possible : q.move? depth m = some r) : Run depth p (steps ++ [⟨q, m, r⟩]) r

/-- The steps of moves, up to the first that is not possible. -/
def trail (depth : Nat) (p : Pool) : List Move → List Step
  | [] => []
  | m :: rest =>
    match p.move? depth m with
    | some q => ⟨p, m, q⟩ :: trail depth q rest
    | none => []

namespace Run
variable {depth : Nat} {p q r : Pool} {steps : List Step}

theorem append {more : List Step} (run : Run depth p steps q) (rest : Run depth q more r) :
    Run depth p (steps ++ more) r := by
  induction rest with
  | start => simpa using run
  | next _ possible ih =>
    rw [← List.append_assoc]
    exact ih.next possible

theorem single {m : Move} (possible : p.move? depth m = some q) : Run depth p [⟨p, m, q⟩] q :=
  Run.start.next possible

theorem step_possible (run : Run depth p steps q) {x : Step} (h : x ∈ steps) :
    x.before.move? depth x.move = some x.after := by
  induction run with
  | start => simp at h
  | next run possible ih =>
    rcases List.mem_append.mp h with h | h
    · exact ih h
    · rw [List.mem_singleton] at h
      subst h
      exact possible

/-- A run falls into two where its steps do. -/
theorem split {first second : List Step} (run : Run depth p (first ++ second) q) :
    ∃ m, Run depth p first m ∧ Run depth m second q := by
  induction second using List.reverseRecOn generalizing q with
  | nil =>
    rw [List.append_nil] at run
    exact ⟨q, run, .start⟩
  | append_singleton second x ih =>
    rw [← List.append_assoc] at run
    generalize hs : first ++ second ++ [x] = steps at run
    cases run with
    | start => simp at hs
    | next run possible =>
      obtain ⟨h, hx⟩ := List.append_inj' hs rfl
      subst h
      obtain ⟨m, h1, h2⟩ := ih run
      rw [(List.cons.inj hx).1]
      exact ⟨m, h1, h2.next possible⟩

/-- A step in the middle of a run starts where the steps before it lead. -/
theorem at_step {first second : List Step} {x : Step}
    (run : Run depth p (first ++ x :: second) q) :
    Run depth p first x.before ∧ Run depth x.after second q := by
  rw [List.append_cons] at run
  obtain ⟨m, h, rest⟩ := run.split
  generalize hs : first ++ [x] = steps at h
  cases h with
  | start => simp at hs
  | next run possible =>
    obtain ⟨h, hx⟩ := List.append_inj' hs rfl
    subst h
    rw [(List.cons.inj hx).1]
    exact ⟨run, rest⟩

/-- A run of no steps leads nowhere. -/
theorem eq_of_nil (run : Run depth p [] q) : q = p := by
  generalize hs : ([] : List Step) = steps at run
  cases run with
  | start => rfl
  | next run possible => simp at hs

/-- What every step keeps holds in the end. -/
theorem invariant {P : Pool → Prop} (run : Run depth p steps q) (hp : P p)
    (hstep : ∀ x ∈ steps, P x.before → P x.after) : P q := by
  induction run with
  | start => exact hp
  | next run possible ih =>
    have hq := ih fun x hx => hstep x (List.mem_append_left _ hx)
    exact hstep _ (List.mem_append_right _ (List.mem_singleton_self _)) hq

/-- What every step keeps holds around every step. -/
theorem invariant_before {P : Pool → Prop} (run : Run depth p steps q) (hp : P p)
    (hstep : ∀ x ∈ steps, P x.before → P x.after) {x : Step} (hx : x ∈ steps) : P x.before := by
  obtain ⟨first, second, rfl⟩ := List.append_of_mem hx
  refine run.at_step.1.invariant hp fun y hy => hstep y ?_
  exact List.mem_append_left _ hy

end Run

/-- Moves that are possible one after another make a run. -/
theorem run_trail {depth : Nat} {p q : Pool} {moves : List Move}
    (h : p.run? depth moves = some q) : Run depth p (trail depth p moves) q := by
  induction moves generalizing p with
  | nil =>
    cases h
    exact .start
  | cons m rest ih =>
    simp only [run?, List.foldlM_cons, Option.bind_eq_bind, Option.bind_eq_some_iff] at h
    obtain ⟨r, hm, h⟩ := h
    have hr : Run depth r (trail depth r rest) q := ih h
    rw [trail, hm]
    exact (Run.single hm).append hr

/-- Something holds of each step and the steps before it. -/
def Along (P : List Step → Step → Prop) (past : List Step) : List Step → Prop
  | [] => True
  | x :: rest => P past x ∧ Along P (past ++ [x]) rest

instance decidableAlong {P : List Step → Step → Prop} [∀ past x, Decidable (P past x)] :
    ∀ past steps, Decidable (Along P past steps)
  | _, [] => .isTrue trivial
  | past, x :: rest => @instDecidableAnd _ _ _ (decidableAlong (past ++ [x]) rest)

theorem along_append {P : List Step → Step → Prop} {past first second : List Step} :
    Along P past (first ++ second) ↔ Along P past first ∧ Along P (past ++ first) second := by
  induction first generalizing past with
  | nil => simp [Along]
  | cons x rest ih =>
    rw [List.cons_append, Along, ih, Along, and_assoc, List.append_assoc]
    rfl

theorem along_concat {P : List Step → Step → Prop} {steps : List Step} {x : Step} :
    Along P [] (steps ++ [x]) ↔ Along P [] steps ∧ P steps x := by
  rw [along_append, List.nil_append, Along, Along, and_true]

/-- It is enough to look at each step with what comes before it. -/
theorem along_of_forall {P : List Step → Step → Prop} {past steps : List Step}
    (h : ∀ first x second, steps = first ++ x :: second → P (past ++ first) x) :
    Along P past steps := by
  induction steps generalizing past with
  | nil => trivial
  | cons x rest ih =>
    have hx : P past x := by simpa using h [] x rest rfl
    refine ⟨hx, ih fun first y second hs => ?_⟩
    have hy := h (x :: first) y second (by rw [hs]; rfl)
    rwa [List.append_assoc]

theorem filterMap_concat {α β : Type} (f : α → Option β) (l : List α) (x : α) :
    (l ++ [x]).filterMap f = l.filterMap f ++ (f x).toList := by
  rw [List.filterMap_append]
  cases h : f x <;> simp [h]

theorem countP_concat (steps : List Step) (x : Step) (f : Step → Bool) :
    (steps ++ [x]).countP f = steps.countP f + (f x).toNat := by
  cases h : f x <;> simp [List.countP_append, h]

end Pool
end EditorLink
