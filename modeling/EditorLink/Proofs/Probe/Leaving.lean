import EditorLink.Proofs.Probe.Watching

/-!
# How a probe ends

However a probe goes, it closes the transport once, when it leaves, and ends when the transport
has shut down. If it has anything to report, that is what the server had sent last when it
printed: one line for each diagnostic, in the order of their positions. What the server sends
afterwards changes neither the report nor whether there are errors in it.
-/
namespace EditorLink.Probe
open Session

/-- The document of a probe, as far as it was opened. -/
def document (p : Probe) : Document := (p.pool.session.buffer place).text

/-- Whether a probe has left. -/
def hasLeft (p : Probe) : Bool :=
  match p.stage with
  | .leaving _ | .ended _ => true
  | _ => false

/-- What some moves have delivered last: what the last message about the document says, in the
document as it was then. -/
inductive Delivers (depth : Nat) (options : Options) (path : FilePath) (start : Probe)
    (moves : List ProbeMove) : List Diagnostic → Prop where
  | nothing (silent : ∀ m ∈ moves, delivers? options path m = none) :
    Delivers depth options path start moves []
  | last {early late : List ProbeMove} {m : ProbeMove} {findings : List Finding} {p : Probe}
    (split : moves = early ++ m :: late) (reached : start.run? depth early = some p)
    (brings : delivers? options path m = some findings)
    (silent : ∀ n ∈ late, delivers? options path n = none) :
    Delivers depth options path start moves (p.document.diagnostics findings)

/-- A report tells what is shown when it is printed, in the order of positions, and whether
something of this is an error. -/
structure Prints (path : FilePath) (p : Probe) (report : ProbeReport) : Prop where
  formatted : p.shown.mapM (p.document.report (String.ofList path.text)) = .ok report.lines
  ordered : p.shown.Pairwise p.document.Precedes
  status : report.hasErrors = true ↔ ∃ g ∈ p.shown, g.severity = Severity.error.name

/-- How a probe behaves, by the moves that it has made since it started. -/
structure Behaves (depth : Nat) (options : Options) (path : FilePath)
    (content : Except FileTrouble (List Char)) (start : Probe) (moves : List ProbeMove)
    (q : Probe) : Prop where
  closings : q.pool.session.closings = if q.hasLeft then 1 else 0
  /-- It ends with the shutdown of a transport that it has closed. -/
  ends : ∀ outcome, q.stage = .ended outcome → ∃ before p, moves = before ++ [.shutDown] ∧
    start.run? depth before = some p ∧ p.pool.session.closings = 1
  /-- Until then the server may send anything. -/
  receives : (∀ outcome, q.stage ≠ .ended outcome) → ∀ push,
    ∃ r, q.move? depth (.act (.command (.publish push))) = some r
  opened : q.stage = .waiting →
    ∃ text, content = .ok text ∧ q.document = .ofText (Text.universalNewlines text)
  /-- It can be printed whatever the server has sent, unless the document is too long for
  positions that can be sent. -/
  printable : q.stage = .waiting → q.document.length ≤ Failure.maxCoordinate →
    ∃ lines, q.lines = .ok lines
  reports : ∀ report, q.stage = .ended (.ok report) → ∃ first rest p,
    moves = first ++ .print :: rest ∧ start.run? depth first = some p ∧ p.stage = .waiting ∧
      Delivers depth options path start first p.shown ∧ Prints path p report

/-- What a move of a probe needs and what comes of it. -/
inductive Goes (depth : Nat) (p : Probe) : ProbeMove → Probe → Prop where
  | acts {m : Move} {pool : Pool} (unended : ∀ outcome, p.stage ≠ .ended outcome)
    (spontaneous : m.isSpontaneous = true) (possible : p.pool.move? depth m = some pool) :
    Goes depth p (.act m) { p with pool := pool }
  | waits {r : Result} (opening : p.stage = .opening) (opened : p.pool.outcome? 0 = some (.ok r)) :
    Goes depth p .proceed { p with stage := .waiting }
  | fails {outcome : Except Failure Result} (why : ProbeFailure) (opening : p.stage = .opening)
    (finished : p.pool.outcome? 0 = some outcome) : Goes depth p .proceed (p.leave (.error why))
  | prints (waiting : p.stage = .waiting) :
    Goes depth p .print (p.leave (p.lines.mapError .stopped))
  | ends {printed : Except ProbeFailure (List String)} (leaving : p.stage = .leaving printed) :
    Goes depth p .shutDown
      { p with stage := .ended (printed.map fun lines => ⟨lines, p.hasErrors⟩) }

/-- The document of a probe was taken from its session, which was closed, and nobody is left. -/
structure Left (p : Pool) : Prop where
  live : p.session.broadcast.live = []
  closings : p.session.closings = 1
  finished : ∀ task ∈ p.tasks, ∃ outcome, task = .running (.finished outcome)

section
variable {depth : Nat} {options : Options} {path : FilePath} {language : String}
  {seconds : Option Double} {content : Except FileTrouble (List Char)} {start p q : Probe}
  {pool after : Pool} {m : Move} {moves : List ProbeMove}

theorem goes_of_possible {m : ProbeMove} (possible : p.move? depth m = some q) :
    Goes depth p m q := by
  cases m with
  | act m =>
    simp only [move?] at possible
    split at possible
    · cases possible
    · cases possible
    · obtain ⟨pool, hpool, rfl⟩ := Option.map_eq_some_iff.mp possible
      exact .acts ‹_› ‹_› hpool
  | proceed =>
    simp only [move?] at possible
    split at possible
    · split at possible <;> cases possible
      · exact .waits ‹_› ‹_›
      · exact .fails _ ‹_› ‹_›
    · cases possible
      exact .fails _ ‹_› ‹_›
    · cases possible
  | print =>
    simp only [move?] at possible
    split at possible <;> cases possible
    exact .prints ‹_›
  | shutDown =>
    simp only [move?] at possible
    split at possible <;> cases possible
    exact .ends ‹_›

theorem run?_concat (p : Probe) (moves : List ProbeMove) (m : ProbeMove) :
    p.run? depth (moves ++ [m]) = (p.run? depth moves).bind (move? depth · m) := by
  simp [run?, List.foldlM_append]

theorem path_run (run : start.run? depth moves = some q) : q.path = start.path := by
  induction moves using List.reverseRecOn generalizing q with
  | nil =>
    cases run
    rfl
  | append_singleton moves m ih =>
    rw [run?_concat] at run
    obtain ⟨p, reached, possible⟩ := Option.bind_eq_some_iff.mp run
    rw [← ih reached]
    cases goes_of_possible possible <;> rfl

/-! ## After leaving -/

/-- Whoever leaves closes the transport, and what was shown last stays. -/
theorem left_leave (h : Occupied p.pool.session)
    (finished : ∀ task ∈ p.pool.tasks, ∃ outcome, task = .running (.finished outcome))
    (printed : Except ProbeFailure (List String)) :
    Left (p.leave printed).pool ∧ (p.leave printed).shown = p.shown := by
  have htoken : p.pool.session.token? place = some 0 := by
    rw [token?, h.attached]
    rfl
  have hdetach : p.pool.session.detach place = { p.pool.session with
      attached := [], broadcast := p.pool.session.broadcast.cancel 0, phase := .closed
      isReady := false, trace := p.pool.session.trace ++ [.transportClosed] } := by
    rw [detach, htoken]
    simp [h.attached, h.itself, Session.close, h.unclosed, record, place]
  refine ⟨⟨?_, ?_, finished⟩, ?_⟩
  · simp [leave, hdetach, Broadcast.cancel, h.live]
  · have hclosings := h.closings
    unfold closings at hclosings ⊢
    simp [leave, hdetach, hclosings]
  · exact lastShown_append (congrArg trace hdetach) (by simp [Event.shown?])

/-- Once a probe has left, nothing that happens is noticed. -/
theorem left_move (h : Left pool) (spontaneous : m.isSpontaneous = true)
    (possible : pool.move? depth m = some after) :
    Left after ∧ after.session.lastShown place = pool.session.lastShown place := by
  obtain ⟨push, rfl⟩ | about | about := spontaneous_cases spontaneous
  · have hlisteners : pool.session.broadcast.listeners = [] := by
      rw [Broadcast.listeners, h.live]
      rfl
    cases Pool.moves_of_possible possible with
    | command performs =>
      rw [perform_publish_of_nobody hlisteners] at performs
      cases performs
      exact ⟨h, rfl⟩
  · obtain ⟨hu, htasks⟩ := Pool.unnoticed_move possible about
    refine ⟨⟨?_, hu.closings.trans h.closings, htasks ▸ h.finished⟩, hu.lastShown place⟩
    exact (congrArg (fun r => r.broadcast.live) hu.registry).trans h.live
  · have hfinished {who : Nat} {task : Task} (ht : pool.tasks[who]? = some task) :
        ∃ outcome, task = .running (.finished outcome) := h.finished task (List.mem_of_getElem? ht)
    -- an operation that is over does not go on
    cases Pool.moves_of_possible possible with
    | submit | command | beginExchange | answerExchange | announceExchange => exact absurd rfl about
    | begin created =>
      obtain ⟨outcome, ht⟩ := hfinished created
      cases ht
    | wake paused | grant paused | sent _ _ paused | answer _ paused =>
      obtain ⟨outcome, ht⟩ := hfinished (Pool.pause?_eq_some.mp paused)
      cases ht

/-! ## The whole way -/

/-- Where a probe is after the moves that it has made since it started. -/
inductive Course (depth : Nat) (options : Options) (path : FilePath)
    (content : Except FileTrouble (List Char)) (start : Probe) : List ProbeMove → Probe → Prop where
  | watches {moves : List ProbeMove} {p : Probe} {task : Task} {text : List Char}
    (read : content = .ok text) (tasks : p.pool.tasks = [task])
    (watches : Watches options path (.ofText (Text.universalNewlines text)) task p.pool.session)
    (delivers : Delivers depth options path start moves p.shown)
    (stage : p.stage = .opening ∨ p.stage = .waiting ∧ ∃ r, p.pool.outcome? 0 = some (.ok r)) :
    Course depth options path content start moves p
  | fails {moves : List ProbeMove} {p : Probe} {why : ProbeFailure} (left : Left p.pool)
    (stage : p.stage = .leaving (.error why)) : Course depth options path content start moves p
  | prints {first rest : List ProbeMove} {w p : Probe} {lines : List String}
    (reached : start.run? depth first = some w) (waiting : w.stage = .waiting)
    (printed : w.lines = .ok lines) (shown : p.shown = w.shown) (left : Left p.pool)
    (stage : p.stage = .leaving (.ok lines)) :
    Course depth options path content start (first ++ .print :: rest) p
  | ends {moves : List ProbeMove} {p : Probe} {printed : Except ProbeFailure (List String)}
    (reached : start.run? depth moves = some p)
    (before : Course depth options path content start moves p) (stage : p.stage = .leaving printed) :
    Course depth options path content start (moves ++ [.shutDown])
      { p with stage := .ended (printed.map fun lines => ⟨lines, p.hasErrors⟩) }

/-- What was delivered last after one more move. -/
theorem delivers_concat {m : ProbeMove} (h : Delivers depth options path start moves p.shown)
    (reached : start.run? depth moves = some p)
    (hq : q.shown = ((delivers? options path m).map p.document.diagnostics).getD p.shown) :
    Delivers depth options path start (moves ++ [m]) q.shown := by
  rw [hq]
  cases hm : delivers? options path m with
  | some findings => exact .last rfl reached hm (by simp)
  | none =>
    generalize p.shown = shown at h
    have hsilent {late : List ProbeMove} (hl : ∀ n ∈ late, delivers? options path n = none) :
        ∀ n ∈ late ++ [m], delivers? options path n = none := by
      simpa [or_imp, forall_and] using ⟨hl, hm⟩
    cases h with
    | nothing silent => exact .nothing (hsilent silent)
    | last split reached brings silent =>
      exact .last (by rw [split]; simp) reached brings (hsilent silent)

/-- The document was opened, or could not be opened. -/
theorem finished_of_outcome? {task : Task} {outcome : Except Failure Result}
    (tasks : pool.tasks = [task]) (h : pool.outcome? 0 = some outcome) :
    task = .running (.finished outcome) := by
  have ht := Pool.outcome?_eq_some.mp h
  rw [tasks] at ht
  exact Option.some.inj ht

/-- A probe leaves when nothing goes on in its session. -/
theorem left_of_watches {document : Document} {task : Task} {outcome : Except Failure Result}
    (tasks : p.pool.tasks = [task]) (watches : Watches options path document task p.pool.session)
    (finished : p.pool.outcome? 0 = some outcome) (printed : Except ProbeFailure (List String)) :
    Left (p.leave printed).pool ∧ (p.leave printed).shown = p.shown := by
  refine left_leave watches.toOccupied (fun t ht => ⟨outcome, ?_⟩) printed
  rw [tasks, List.mem_singleton] at ht
  rw [ht, finished_of_outcome? tasks finished]

/-- A probe starts with a document to open, or has left at once. -/
theorem course_start :
    Course depth options path content (.start options path language seconds content) []
      (.start options path language seconds content) := by
  have hoccupied : Occupied (session options path language) :=
    ⟨rfl, rfl, rfl, rfl, rfl, by simp [session, Session.create, Session.attach, Session.start, token?]⟩
  cases content with
  | ok text =>
    refine .watches rfl rfl ⟨hoccupied, ⟨_, rfl, rfl, rfl, rfl⟩, .created, ?_, ?_⟩
      (.nothing (by simp)) (.inl rfl)
    · rintro g ⟨⟩
    · exact List.Pairwise.nil
  | error trouble =>
    have hleft (printed : Except ProbeFailure (List String)) :
        Left (leave ⟨path, seconds, .ofSession (session options path language), .opening⟩
          printed).pool :=
      (left_leave hoccupied (by simp [Pool.ofSession]) printed).1
    exact .fails (hleft _) rfl

/-- Every move takes a probe further on its way, and none takes it back. -/
theorem course_move {m : ProbeMove} (h : Course depth options path content start moves p)
    (reached : start.run? depth moves = some p) (goes : Goes depth p m q) :
    Course depth options path content start (moves ++ [m]) q := by
  cases h with
  | @watches moves p task text read tasks watches delivers stage =>
    cases goes with
    | @acts m pool unended spontaneous possible =>
      obtain ⟨later, htasks, hwatches, hshown⟩ := watches_move tasks watches spontaneous possible
      refine .watches read htasks hwatches (delivers_concat delivers reached hshown) ?_
      obtain hs | ⟨hs, r, hr⟩ := stage
      · exact .inl hs
      · exact .inr ⟨hs, r, Pool.outcome?_move possible hr⟩
    | waits opening opened =>
      have hsilent : delivers? options path .proceed = none := rfl
      refine .watches read tasks watches (delivers_concat delivers reached ?_) (.inr ⟨rfl, _, opened⟩)
      rw [hsilent]
      rfl
    | fails why opening finished => exact .fails (left_of_watches tasks watches finished _).1 rfl
    | prints waiting =>
      obtain hs | ⟨-, r, hr⟩ := stage
      · rw [waiting] at hs
        cases hs
      · cases hl : p.lines with
        | error why => exact .fails (left_of_watches tasks watches hr _).1 rfl
        | ok lines =>
          obtain ⟨hleft, hshown⟩ := left_of_watches tasks watches hr (.ok lines)
          exact .prints reached waiting hl hshown hleft rfl
    | ends leaving =>
      obtain hs | ⟨hs, -⟩ := stage <;> · rw [leaving] at hs; cases hs
  | fails left stage =>
    cases goes with
    | acts unended spontaneous possible => exact .fails (left_move left spontaneous possible).1 stage
    | ends leaving => exact .ends reached (.fails left stage) leaving
    | waits opening | fails _ opening | prints opening =>
      rw [stage] at opening
      cases opening
  | prints reached' waiting printed shown left stage =>
    rw [List.append_assoc, List.cons_append]
    cases goes with
    | acts unended spontaneous possible =>
      obtain ⟨hleft, hshown⟩ := left_move left spontaneous possible
      exact .prints reached' waiting printed (hshown.trans shown) hleft stage
    | ends leaving =>
      rw [← List.cons_append, ← List.append_assoc]
      exact .ends reached (.prints reached' waiting printed shown left stage) leaving
    | waits opening | fails _ opening | prints opening =>
      rw [stage] at opening
      cases opening
  | ends reached' before stage =>
    cases goes with
    | acts unended => exact absurd rfl (unended _)
    | waits opening | fails _ opening | prints opening | ends opening => cases opening

theorem course_run (run : (Probe.start options path language seconds content).run? depth moves =
    some q) :
    Course depth options path content (.start options path language seconds content) moves q := by
  induction moves using List.reverseRecOn generalizing q with
  | nil =>
    cases run
    exact course_start
  | append_singleton moves m ih =>
    rw [run?_concat] at run
    obtain ⟨p, reached, possible⟩ := Option.bind_eq_some_iff.mp run
    exact course_move (ih reached) reached (goes_of_possible possible)

/-- Until a probe has ended, any message of the server is possible. -/
theorem exists_receives (h : Course depth options path content start moves p)
    (unended : ∀ outcome, p.stage ≠ .ended outcome) (push : Push) :
    ∃ q, p.move? depth (.act (.command (.publish push))) = some q := by
  have hperforms : ∃ b, p.pool.session.perform depth (.publish push) = some b := by
    cases h with
    | watches read tasks watches =>
      have hlisteners : p.pool.session.broadcast.listeners = [.buffer place] := by
        rw [Broadcast.listeners, watches.live]
        rfl
      exact ⟨_, perform_publish hlisteners watches.idle depth push⟩
    | fails left | prints _ _ _ _ left =>
      have hlisteners : p.pool.session.broadcast.listeners = [] := by
        rw [Broadcast.listeners, left.live]
        rfl
      exact ⟨_, perform_publish_of_nobody hlisteners depth push⟩
    | ends => exact absurd rfl (unended _)
  obtain ⟨b, hb⟩ := hperforms
  simp [move?, Move.isSpontaneous, Pool.move?, hb]

/-- What a probe that waits for diagnostics has come to. -/
theorem watches_of_waiting (h : Course depth options path content start moves p)
    (waiting : p.stage = .waiting) :
    ∃ text task, content = .ok text ∧ p.document = .ofText (Text.universalNewlines text) ∧
      Watches options path (.ofText (Text.universalNewlines text)) task p.pool.session ∧
      Delivers depth options path start moves p.shown := by
  cases h with
  | watches read tasks watches delivers stage =>
    obtain hs | ⟨-, r, hr⟩ := stage
    · rw [waiting] at hs
      cases hs
    · have hopens := watches.opens
      rw [finished_of_outcome? tasks hr] at hopens
      generalize hd : (p.pool.session.buffer place).text = held at hopens
      cases hopens
      exact ⟨_, _, read, hd, watches, delivers⟩
  | fails _ stage | prints _ _ _ _ _ stage =>
    rw [waiting] at stage
    cases stage
  | ends => cases waiting

/-- A probe that leaves has closed the transport, and has printed before if it has anything to
report. -/
theorem left_of_leaving {printed : Except ProbeFailure (List String)}
    (h : Course depth options path content start moves p) (leaving : p.stage = .leaving printed) :
    Left p.pool ∧ ∀ lines, printed = .ok lines → ∃ first rest w, moves = first ++ .print :: rest ∧
      start.run? depth first = some w ∧ w.stage = .waiting ∧ w.lines = .ok lines ∧
        p.shown = w.shown := by
  cases h with
  | watches _ _ _ _ stage =>
    obtain hs | ⟨hs, -⟩ := stage <;> · rw [leaving] at hs; cases hs
  | fails left stage =>
    rw [leaving] at stage
    cases stage
    exact ⟨left, nofun⟩
  | prints reached waiting printed shown left stage =>
    rw [leaving] at stage
    cases stage
    refine ⟨left, fun lines hl => ?_⟩
    cases hl
    exact ⟨_, _, _, rfl, reached, waiting, printed, shown⟩
  | ends => cases leaving

/-- A probe that has ended has left before. -/
theorem leaving_of_ended {outcome : Except ProbeFailure ProbeReport}
    (h : Course depth options path content start moves q) (ended : q.stage = .ended outcome) :
    ∃ before p printed, moves = before ++ [.shutDown] ∧ start.run? depth before = some p ∧
      Course depth options path content start before p ∧ p.stage = .leaving printed ∧
        q.pool = p.pool ∧ outcome = printed.map fun lines => ⟨lines, p.hasErrors⟩ := by
  cases h with
  | watches _ _ _ _ stage =>
    obtain hs | ⟨hs, -⟩ := stage <;> · rw [ended] at hs; cases hs
  | fails _ stage | prints _ _ _ _ _ stage =>
    rw [ended] at stage
    cases stage
  | ends reached before leaving =>
    cases ended
    exact ⟨_, _, _, rfl, reached, before, leaving, rfl, rfl⟩

theorem closings_eq (h : Course depth options path content start moves q) :
    q.pool.session.closings = if q.hasLeft then 1 else 0 := by
  cases hs : q.stage with
  | opening | waiting =>
    cases h with
    | watches _ _ watches => simp [hasLeft, hs, watches.closings]
    | fails _ stage | prints _ _ _ _ _ stage =>
      rw [hs] at stage
      cases stage
    | ends => cases hs
  | leaving printed => simp [hasLeft, hs, (left_of_leaving h hs).1.closings]
  | ended outcome =>
    obtain ⟨before, p, printed, -, -, earlier, leaving, hpool, -⟩ := leaving_of_ended h hs
    simp [hasLeft, hs, hpool, (left_of_leaving earlier leaving).1.closings]

/-- What was printed is what was delivered last, and it is told whether one of it is an error. -/
theorem prints_of_waiting {lines : List String} {shown : List Diagnostic}
    (h : Course depth options path content start moves p) (waiting : p.stage = .waiting)
    (hpath : p.path = path) (printed : p.lines = .ok lines) (hshown : shown = p.shown) :
    Prints path p ⟨lines, shown.any (·.severity = Severity.error.name)⟩ := by
  obtain ⟨text, task, -, -, watches, -⟩ := watches_of_waiting h waiting
  refine ⟨?_, Document.pairwise_precedes watches.sorted, ?_⟩
  · rw [← hpath]
    exact printed
  · simp [hshown]

/-- A probe closes the transport once, when it leaves, and ends when the transport has shut down,
whatever the server does and whether or not the document can be read. What it has printed then are
the diagnostics that were delivered last before, in the order of their positions, and it tells
whether one of them is an error. -/
theorem behaves_of_run
    (run : (Probe.start options path language seconds content).run? depth moves = some q) :
    Behaves depth options path content (.start options path language seconds content) moves q := by
  have course := course_run run
  refine ⟨closings_eq course, fun outcome ended => ?_, exists_receives course, fun waiting => ?_,
    fun waiting short => ?_, fun report ended => ?_⟩
  · obtain ⟨before, p, printed, hmoves, reached, earlier, leaving, -⟩ := leaving_of_ended course ended
    exact ⟨before, p, hmoves, reached, (left_of_leaving earlier leaving).1.closings⟩
  · obtain ⟨text, -, read, hdocument, -⟩ := watches_of_waiting course waiting
    exact ⟨text, read, hdocument⟩
  · obtain ⟨text, task, -, -, watches, -⟩ := watches_of_waiting course waiting
    exact Document.exists_reports _ watches.inside short
  · obtain ⟨before, p, printed, hmoves, -, earlier, leaving, -, houtcome⟩ :=
      leaving_of_ended course ended
    cases printed with
    | error why => cases houtcome
    | ok lines =>
      cases houtcome
      obtain ⟨first, rest, w, hbefore, reached, waiting, hlines, hshown⟩ :=
        (left_of_leaving earlier leaving).2 lines rfl
      have waits := course_run reached
      obtain ⟨-, -, -, -, -, delivers⟩ := watches_of_waiting waits waiting
      have hpath : w.path = path := (path_run reached).trans (by cases content <;> rfl)
      exact ⟨first, rest ++ [.shutDown], w, by simp [hmoves, hbefore], reached, waiting, delivers,
        prints_of_waiting waits waiting hpath hlines hshown⟩

end

/-- A document is found to have an error before it is open, and a warning afterwards; when both
were told, the warning is printed. What the server still sends then comes too late. -/
def probing : List ProbeMove :=
  let warning : Finding := ⟨⟨⟨0, 1⟩, ⟨0, 2⟩⟩, some 2, "unused", none⟩
  let fault : Finding := ⟨⟨⟨0, 0⟩, ⟨0, 0⟩⟩, some 1, "broken", none⟩
  let tells (finding : Finding) : ProbeMove := .act (.command (.publish
    ⟨Push.publishMethod, .findings ⟨"file:///a", [finding], .null⟩⟩))
  [.act (.begin 0), tells fault, .act (.beginExchange 0),
    .act (.answerExchange 0 (.ok (Wire.ofIntroduced (.object [])))),
    .act (.announceExchange 0 true (.ok ())), .act (.wake 0), tells warning,
    .act (.sent 0 true (.ok ())), .proceed, .print, tells fault, .shutDown]

/-- What the probe of such a document has come to in the end. -/
def probed : Option Probe :=
  (Probe.start .standard (.ofText "/a".toList) "text" (some 1.0) (.ok "ab".toList)).run? 0 probing

/-- What a probe has reported in the end, if anything. -/
def report? (p : Probe) : Option ProbeReport :=
  match p.stage with
  | .ended (.ok report) => some report
  | _ => none

theorem behaves_probing :
    ∃ q report, probed = some q ∧ q.stage = .ended (.ok report) ∧
      report.lines = ["/a:1:2: warning unused"] ∧ report.hasErrors = false ∧
      Behaves 0 .standard (.ofText "/a".toList) (.ok "ab".toList)
        (.start .standard (.ofText "/a".toList) "text" (some 1.0) (.ok "ab".toList)) probing q := by
  have reported : (probed.bind report?).map (fun r => (r.lines, r.hasErrors)) =
      some (["/a:1:2: warning unused"], false) := by decide +kernel
  obtain ⟨report, hreport, hlines⟩ := Option.map_eq_some_iff.mp reported
  obtain ⟨q, run, hq⟩ := Option.bind_eq_some_iff.mp hreport
  have ended : q.stage = .ended (.ok report) := by
    unfold report? at hq
    split at hq <;> cases hq
    assumption
  obtain ⟨hlines, hstatus⟩ := Prod.mk.inj hlines
  exact ⟨q, report, run, ended, hlines, hstatus, behaves_of_run run⟩

end EditorLink.Probe
