import EditorLink.Proofs.Session.Exchanges

/-!
# What is asked on a session that is not ready

Nothing that is asked about a document leaves a session that is not ready: before the handshake,
while it goes on, and after the session was closed. Whatever is asked then ends at once. And of
the questions about a place in a document, each brings nothing and changes nothing where its
feature is off, the session is not ready or the server does not offer it.
-/
namespace EditorLink

/-- What has to hold for a question to be asked, and what it brings otherwise. -/
structure Gate where
  feature : Feature
  /-- The name under which a server offers it. -/
  key : String
  /-- Whether a server offers it, by what is kept of what it has said. -/
  offers : ServerCapabilities → Bool
  nothing : Result

/-- What has to hold for the question of an operation, and the name of the buffer that it is
about. -/
def Operation.gate? : Operation → Option (String × Gate)
  | .hover name _ => some (name, ⟨.hover, "hoverProvider", (·.hover), .hover none⟩)
  | .complete name _ _ _ =>
    some (name, ⟨.completion, "completionProvider", (·.completion.isSome), .completion none⟩)
  | .define name _ =>
    some (name, ⟨.definition, "definitionProvider", (·.definition), .definition none⟩)
  | .rename name _ _ => some (name, ⟨.rename, "renameProvider", (·.rename.isSome), .edit none⟩)
  | .codeActions name _ _ =>
    some (name, ⟨.codeActions, "codeActionProvider", (·.codeAction), .actions none⟩)
  | .help name _ _ =>
    some (name, ⟨.signatureHelp, "signatureHelpProvider", (·.signatureHelp.isSome), .help none⟩)
  | _ => none

theorem isSome_details? (key : String) (v : Value) :
    (Wire.details? key v).isSome = Wire.offers key v := by
  unfold Wire.details? Wire.offers
  cases h : Wire.member? key v with
  | none => rfl
  | some w =>
    cases w with
    | bool b => cases b <;> rfl
    | _ => rfl

/-- What is kept of what a server has said tells what it offers. -/
theorem offers_serverCapabilities {operation : Operation} {name : String} {gate : Gate}
    (h : operation.gate? = some (name, gate)) (v : Value) :
    gate.offers (Wire.serverCapabilities v) = Wire.offers gate.key v := by
  cases operation with
  | hover | define | codeActions => cases h; rfl
  | complete | rename | help =>
    cases h
    exact Option.isSome_map.trans (isSome_details? _ v)
  | _ => cases h

namespace Session

/-- Why a question is not asked. -/
inductive Bars (s : Session) (place : Nat) (gate : Gate) : Prop where
  | off (off : (s.buffer place).options.features gate.feature = false)
  | unready (unready : s.isReady = false)
  /-- The server has not said what it offers. -/
  | unknown (unknown : s.capabilities = none)
  | unoffered {v : Value} (said : s.capabilities = some (Wire.serverCapabilities v))
    (unoffered : Wire.offers gate.key v = false)

section
variable {s : Session} {depth who place : Nat} {operation : Operation} {a : Advance}
  {name : String} {gate : Gate}

theorem allows_of_bars (asks : operation.gate? = some (name, gate)) (h : s.Bars place gate) :
    s.allows place gate.feature gate.offers = false := by
  unfold allows
  cases h with
  | off off => simp [off]
  | unready unready => simp [unready]
  | unknown unknown => simp [unknown]
  | unoffered said unoffered =>
    rw [said, Option.any_some, offers_serverCapabilities asks, unoffered, Bool.and_false]

/-- A question that is not asked brings nothing and changes nothing. -/
theorem begin_of_bars (asks : operation.gate? = some (name, gate))
    (found : s.find? name = some place) (h : s.Bars place gate) :
    s.begin depth who operation = some (s.finish gate.nothing) := by
  have hallows := allows_of_bars asks h
  cases operation with
  | hover | complete | define | rename | codeActions | help =>
    cases asks
    simp only [begin, inBuffer, found, askHover, askCompletion, askDefinition, askRename, askActions,
      askSignatures, allowsHelp, hallows, Bool.false_eq_true, if_false]
  | _ => cases asks

theorem isAside_inBuffer {act : Nat → Advance} (h : ∀ place, (act place).2.isAside = true) :
    (s.inBuffer name act).2.isAside = true := by
  unfold inBuffer
  split
  · rfl
  · exact h _

/-- No change is sent or queued on a session that is not ready. -/
theorem isAside_send (unready : s.isReady = false) (events : List ChangeEvent)
    (next : AfterChange) : (s.send who place events next).2.isAside = true := by
  have hskipped : s.send who place events next = s.afterChange place next := by
    simp [send, unready]
  rw [hskipped]
  exact (s.aside_afterChange place next).progress

theorem isAside_synchronize (unready : s.isReady = false) (text : Document)
    (splices : Option (List Splice)) (next : AfterChange) :
    (s.synchronize who place text splices next).2.isAside = true := by
  unfold synchronize
  dsimp only
  split
  · rfl
  · exact isAside_send (s := s.modify place _) unready _ next

/-- On a session that is not ready nothing waits but for an answer. -/
theorem isAside_begin (unready : s.isReady = false) (gated : operation.isGated = true)
    (h : s.begin depth who operation = some a) : a.2.isAside = true := by
  by_cases aside : operation.isAside = true
  · exact (s.aside_begin depth who aside h).progress
  · cases operation with
    | perform c =>
      obtain ⟨b, -, rfl⟩ := Option.map_eq_some_iff.mp h
      rfl
    | update name text splices cursor =>
      cases h
      refine isAside_inBuffer fun place => ?_
      unfold update
      split
      · rfl
      · exact isAside_synchronize unready text splices _
    | synchronize name text splices =>
      cases h
      exact isAside_inBuffer fun place => isAside_synchronize unready text splices _
    | refresh name =>
      cases h
      exact isAside_inBuffer fun place => isAside_send unready _ _
    | sendEvents name events =>
      cases h
      exact isAside_inBuffer fun place => isAside_send unready events _
    | handshake | openBuffer | notify => cases gated
    | _ => exact absurd rfl aside

/-- What is asked on a session that is not ready is over at once. -/
theorem finished_begin (unready : s.isReady = false) (gated : operation.isGated = true)
    (h : s.begin depth who operation = some a) : ∃ outcome, a.2 = .finished outcome := by
  have haside := isAside_begin unready gated h
  have hspeaks := s.speaks_gated depth who gated h
  cases hp : a.2 with
  | finished outcome => exact ⟨outcome, rfl⟩
  | paused pause =>
    rw [hp] at haside
    cases pause with
    | answer request seconds next =>
      have hready := (hspeaks.allowed (.requested request seconds) (by rw [hp]; rfl)).2
      rw [unready] at hready
      cases hready
    | _ => cases haside

end
end Session

namespace Pool
open Session

/-- What becomes of an operation that begins where it may not ask. -/
structure Gated (depth : Nat) (p : Pool) (who : Nat) (operation : Operation) : Prop where
  /-- On a session that is not ready it sends nothing and is over. -/
  silent : operation.isGated = true → p.session.isReady = false →
    ∀ q, p.move? depth (.begin who) = some q →
      q.session.messages = p.session.messages ∧ (∃ outcome, q.outcome? who = some outcome) ∧
        ∀ steps r, Run depth q steps r → ∀ x ∈ steps, x.move.task? ≠ some who
  /-- A question that is barred brings nothing, and all is as before. -/
  idle : ∀ name place gate, operation.gate? = some (name, gate) →
    p.session.find? name = some place → p.session.Bars place gate →
      p.move? depth (.begin who) =
        some { p with tasks := p.tasks.set who (.running (.finished (.ok gate.nothing))) }
  /-- The server has said what is known of it. -/
  said : ∀ c, p.session.capabilities = some c → ∃ v, c = Wire.serverCapabilities v

section
variable {depth who : Nat} {settings : Settings} {p q : Pool} {m : Move} {steps : List Step}
  {operation : Operation}

/-- An operation that is over makes no move from then on. -/
theorem task?_ne_run {outcome : Except Failure Result} (h : p.outcome? who = some outcome)
    (run : Run depth p steps q) :
    q.outcome? who = some outcome ∧ ∀ x ∈ steps, x.move.task? ≠ some who := by
  induction run with
  | start => exact ⟨h, by simp⟩
  | next run possible ih =>
    obtain ⟨hq, hsteps⟩ := ih
    refine ⟨outcome?_move possible hq, ?_⟩
    simpa [or_imp, forall_and] using ⟨hsteps, task?_ne_of_finished possible hq⟩

/-- All that is known of a server is what it has said. -/
theorem capabilities_run (run : Run depth (ofSession (.start settings)) steps q)
    {c : ServerCapabilities} (h : q.session.capabilities = some c) :
    ∃ v, c = Wire.serverCapabilities v := by
  refine run.invariant (P := fun p => ∀ c, p.session.capabilities = some c →
    ∃ v, c = Wire.serverCapabilities v) (fun c h => by cases h) (fun x hx ih c hc => ?_) c h
  have hshakes := shakes_move (run.step_possible hx)
  generalize x.move = m, x.after.session = t at hshakes hc
  cases hshakes with
  | rests other rests | schedules other free rests => exact ih c (rests.capabilities.symm.trans hc)
  | fails requested unread => exact ih c ((capabilities_exchangeFailed _ _ _).symm.trans hc)
  | @answers number answer c requested read unclosed =>
    cases hc
    cases answer with
    | error why => cases read
    | ok v =>
      obtain ⟨said, -, rfl⟩ := Option.map_eq_some_iff.mp read
      exact ⟨said, rfl⟩
  | @announces number isDelivered outcome announcing =>
    cases isDelivered <;> exact ih c hc
  | gives | asks | comesLate => exact ih c hc

/-- Whatever is asked about a document on a session that is not ready sends nothing and is over
at once; a question whose feature is off, or that the server does not offer, brings nothing, and
neither does it change anything. -/
theorem gated_of_created (run : Run depth (ofSession (.start settings)) steps p)
    (created : p.tasks[who]? = some (.created operation)) :
    Gated depth p who operation := by
  refine ⟨fun gated unready q possible => ?_, fun name place gate asks found barred => ?_, ?_⟩
  · simp only [move?, created] at possible
    obtain ⟨a, begins, rfl⟩ := Option.map_eq_some_iff.mp possible
    have hw := (List.getElem?_eq_some_iff.mp created).1
    obtain ⟨outcome, hfinished⟩ := finished_begin unready gated begins
    have hover : (p.advance who a).outcome? who = some outcome := by
      simp [outcome?, advance, hw, hfinished]
    have hspeaks := p.session.speaks_gated depth who gated begins
    exact ⟨hspeaks.messages_eq (by simp [unready]), ⟨outcome, hover⟩,
      fun steps r later => (task?_ne_run hover later).2⟩
  · simp only [move?, created, begin_of_bars asks found barred, Option.map_some]
    rfl
  · exact fun c hc => capabilities_run run hc

end

/-- A document is changed and asked about while the session starts, and asked about again when
it is ready; its server offers to rename and nothing else. -/
def askingEarly : List Move :=
  [.command (.create "a" "file:///a" "text" .standard), .submit .handshake, .begin 0,
    .beginExchange 0, .submit (.update "a" (.ofText "a".toList) none none),
    .submit (.hover "a" ⟨0, 0⟩)]

/-- The handshake goes on and the document is asked about again. -/
def askingWhenReady : List Move :=
  askingEarly ++ [.answerExchange 0 (.ok (Wire.ofIntroduced (.object [("renameProvider",
    .bool true)]))), .announceExchange 0 true (.ok ())]

theorem gated_askingEarly :
    (∃ p q, (ofSession (.start .standard)).run? 0 askingEarly = some p ∧
      p.session.isReady = false ∧ p.move? 0 (.begin 1) = some q ∧
      q.session.messages = p.session.messages) ∧
    ∃ p, (ofSession (.start .standard)).run? 0 askingWhenReady = some p ∧ p.session.isReady = true ∧
      p.move? 0 (.begin 2) = some { p with
        tasks := p.tasks.set 2 (.running (.finished (.ok (.hover none)))) } := by
  have early : ∃ p q, (ofSession (.start .standard)).run? 0 askingEarly = some p ∧
      p.session.isReady = false ∧ p.move? 0 (.begin 1) = some q ∧
      p.tasks[1]? = some (.created (.update "a" (.ofText "a".toList) none none)) :=
    ⟨_, _, rfl, rfl, rfl, rfl⟩
  have again : ∃ p, (ofSession (.start .standard)).run? 0 askingWhenReady = some p ∧
      p.session.isReady = true ∧ p.tasks[2]? = some (.created (.hover "a" ⟨0, 0⟩)) ∧
      p.session.find? "a" = some 0 ∧ p.session.capabilities =
        some (Wire.serverCapabilities (.object [("renameProvider", .bool true)])) :=
    ⟨_, rfl, rfl, rfl, rfl, rfl⟩
  obtain ⟨p, q, hrun, unready, possible, created⟩ := early
  obtain ⟨p', hrun', ready, created', found, said⟩ := again
  have hsilent := (gated_of_created (run_trail hrun) created).silent rfl unready q possible
  have hidle := (gated_of_created (run_trail hrun') created').idle "a" 0 _ rfl found
    (.unoffered said rfl)
  exact ⟨⟨p, q, hrun, unready, possible, hsilent.1⟩, p', hrun', ready, hidle⟩

end Pool
end EditorLink
