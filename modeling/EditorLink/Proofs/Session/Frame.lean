import EditorLink.Session.Pool
import Mathlib.Tactic.Common

/-!
# What operations leave alone

An operation changes buffers and adds to the trace, and nothing else of its session.
Most operations do even less: they ask, show and report, so that no buffer loses more
than its tooltip. Commands, listeners included, are covered by one induction over how
deep messages are nested.
-/
namespace EditorLink

/-- Whether an event is something that an operation did. -/
def Event.isOutgoing : Event → Bool
  | .requested _ _ | .handed _ | .called _ _ => true
  | _ => false

/-- Whether an event is something that an operation did without sending a notice. -/
def Event.isAside : Event → Bool
  | .requested _ _ | .called _ _ => true
  | _ => false

theorem Event.isOutgoing_of_isAside {e : Event} (h : e.isAside = true) : e.isOutgoing = true := by
  cases e <;> simp_all [Event.isAside, Event.isOutgoing]

/-- A buffer without its tooltip. -/
def Buffer.bare (b : Buffer) : Buffer := { b with tooltip := none }

/-- What the host has decided about a buffer. -/
def Buffer.label (b : Buffer) : Buffer :=
  { b with version := 0, text := .empty, tooltip := none, turns := .idle }

@[simp] theorem Buffer.label_bare (b : Buffer) : b.bare.label = b.label := rfl

/-- Whether an operation is over or waits for an answer. -/
def Progress.isAside : Progress → Bool
  | .finished _ | .paused (.answer _ _ _) => true
  | _ => false

namespace Session

/-- Nothing but texts, versions, turns and tooltips has changed, and the trace tells what an
operation did. -/
def Local (s s' : Session) : Prop :=
  ∃ buffers events, s' = { s with buffers := buffers, trace := s.trace ++ events } ∧
    buffers.map Buffer.label = s.buffers.map Buffer.label ∧ ∀ e ∈ events, e.isOutgoing = true

/-- Nothing but tooltips has changed, and the trace tells of requests and calls only. -/
def Mild (s s' : Session) : Prop :=
  ∃ buffers events, s' = { s with buffers := buffers, trace := s.trace ++ events } ∧
    buffers.map Buffer.bare = s.buffers.map Buffer.bare ∧ ∀ e ∈ events, e.isAside = true

/-- An operation has gone on without touching a document. -/
structure Aside (s : Session) (a : Advance) : Prop where
  mild : Mild s a.1
  progress : a.2.isAside = true

theorem Mild.local {s s' : Session} (h : Mild s s') : Local s s' := by
  obtain ⟨buffers, events, rfl, hb, he⟩ := h
  have hl : buffers.map Buffer.label = s.buffers.map Buffer.label := by
    have h := congrArg (List.map Buffer.label) hb
    simpa only [List.map_map, Function.comp_def, Buffer.label_bare] using h
  exact ⟨buffers, events, rfl, hl, fun e hm => Event.isOutgoing_of_isAside (he e hm)⟩

theorem Mild.refl (s : Session) : Mild s s := ⟨s.buffers, [], by simp, rfl, by simp⟩

theorem Mild.trans {s t u : Session} (h : Mild s t) (h' : Mild t u) : Mild s u := by
  obtain ⟨bs, es, rfl, hb, he⟩ := h
  obtain ⟨bs', es', rfl, hb', he'⟩ := h'
  refine ⟨bs', es ++ es', by simp, hb'.trans hb, ?_⟩
  intro e hm
  rcases List.mem_append.mp hm with h | h
  · exact he e h
  · exact he' e h

theorem Local.refl (s : Session) : Local s s := (Mild.refl s).local

theorem Local.trans {s t u : Session} (h : Local s t) (h' : Local t u) : Local s u := by
  obtain ⟨bs, es, rfl, hb, he⟩ := h
  obtain ⟨bs', es', rfl, hb', he'⟩ := h'
  refine ⟨bs', es ++ es', by simp, hb'.trans hb, ?_⟩
  intro e hm
  rcases List.mem_append.mp hm with h | h
  · exact he e h
  · exact he' e h

theorem Aside.trans {s t : Session} {a : Advance} (h : Mild s t) (h' : Aside t a) : Aside s a :=
  ⟨h.trans h'.mild, h'.progress⟩

/-- A change of one buffer keeps what it keeps of this buffer. -/
theorem map_modify {α : Type} (s : Session) (place : Nat) (f : Buffer → Buffer) (view : Buffer → α)
    (hf : ∀ b, view (f b) = view b) :
    (s.modify place f).buffers.map view = s.buffers.map view := by
  apply List.ext_getElem?
  intro i
  simp only [modify, List.getElem?_map, List.getElem?_modify]
  cases s.buffers[i]? with
  | none => rfl
  | some b => by_cases h : place = i <;> simp [h, hf]

theorem local_modify (s : Session) (place : Nat) (f : Buffer → Buffer)
    (hf : ∀ b, (f b).label = b.label) : Local s (s.modify place f) :=
  ⟨_, [], by simp [modify], s.map_modify place f Buffer.label hf, by simp⟩

theorem local_record (s : Session) {e : Event} (h : e.isOutgoing = true) : Local s (s.record e) :=
  ⟨s.buffers, [e], rfl, rfl, by simpa using h⟩

theorem mild_record (s : Session) {e : Event} (h : e.isAside = true) : Mild s (s.record e) :=
  ⟨s.buffers, [e], rfl, rfl, by simpa using h⟩

/-- Changing a tooltip is mild. -/
theorem mild_modify (s : Session) (place : Nat) (f : Buffer → Buffer)
    (hf : ∀ b, (f b).bare = b.bare) : Mild s (s.modify place f) :=
  ⟨_, [], by simp [modify], s.map_modify place f Buffer.bare hf, by simp⟩

theorem mild_hideTooltip (s : Session) (place : Nat) : Mild s (s.hideTooltip place) :=
  s.mild_modify place _ fun _ => rfl

theorem mild_callHost (s : Session) (place : Nat) (f : Callback) (call : HostCall) :
    Mild s (s.callHost place f call).1 := by
  cases f with
  | none => exact Mild.refl s
  | some fails => exact s.mild_record rfl

theorem mild_reportFailure (s : Session) (place : Nat) (why : Failure) :
    Mild s (s.reportFailure place why).1 :=
  s.mild_callHost place _ _

theorem mild_reportSending (s : Session) (place : Nat) (why : Failure) :
    Mild s (s.reportSending place why) := by
  unfold reportSending
  split
  · exact s.mild_reportFailure place why
  · exact Mild.refl s

theorem mild_showFindings (s : Session) (place : Nat) (push : Push) :
    Mild s (s.showFindings place push) := by
  unfold showFindings
  dsimp only
  split
  · split
    · exact s.mild_callHost place _ _
    · exact Mild.refl s
  · exact Mild.refl s

@[simp] theorem aside_finish (s : Session) (r : Result) : Aside s (s.finish r) := ⟨Mild.refl s, rfl⟩

@[simp] theorem aside_stop (s : Session) (why : Failure) : Aside s (s.stop why) :=
  ⟨Mild.refl s, rfl⟩

@[simp] theorem aside_askWithin (s : Session) (seconds : Double) (request : Request)
    (next : AfterAnswer) : Aside s (s.askWithin seconds request next) :=
  ⟨s.mild_record rfl, rfl⟩

@[simp] theorem aside_ask (s : Session) (request : Request) (next : AfterAnswer) :
    Aside s (s.ask request next) :=
  s.aside_askWithin _ request next

theorem aside_finishAs {s : Session} {a : Session × Except Failure Unit} (h : Mild s a.1)
    (r : Result) : Aside s (finishAs a r) := ⟨h, rfl⟩

theorem aside_callHost (s : Session) (place : Nat) (f : Callback) (call : HostCall) (r : Result) :
    Aside s (finishAs (s.callHost place f call) r) :=
  aside_finishAs (s.mild_callHost place f call) r

section Operations
variable (s : Session) (place : Nat)

theorem aside_helpFailed (whileTyping : Bool) (why : Failure) :
    Aside s (s.helpFailed place whileTyping why) := by
  unfold helpFailed
  split
  · exact aside_finishAs ((s.mild_hideTooltip place).trans (mild_reportFailure _ _ _)) _
  · exact s.aside_stop why

theorem aside_putHelp (offset : Int) (whileTyping : Bool) (help : Option SignatureHelp) :
    Aside s (s.putHelp place offset whileTyping help) := by
  unfold putHelp
  dsimp only
  split
  · exact s.aside_helpFailed place _ _
  · exact Aside.trans (s.mild_hideTooltip place) (aside_finish _ _)
  · exact Aside.trans (t := s.modify place fun b => { b with tooltip := some _ })
      (s.mild_modify place _ fun _ => rfl) (aside_finish _ _)

theorem aside_askHelp (offset : Int) (character : Option String) (whileTyping : Bool) :
    Aside s (s.askHelp place offset character whileTyping) := by
  unfold askHelp
  split
  · exact s.aside_helpFailed place _ _
  · split
    · exact s.aside_ask _ _
    · exact s.aside_putHelp place _ _ _

theorem aside_followTyping (text : Document) (splices : List Splice) (cursor : Option Int) :
    Aside s (s.followTyping place text splices cursor) := by
  unfold followTyping
  dsimp only
  split
  · exact s.aside_finish _
  · split
    · exact s.aside_askHelp place _ _ _
    · split
      · exact s.aside_finish _
      · split
        · exact s.aside_helpFailed place _ _
        · exact s.aside_finish _
        · exact Aside.trans (s.mild_hideTooltip place) (aside_finish _ _)

theorem aside_afterChange (next : AfterChange) : Aside s (s.afterChange place next) := by
  cases next with
  | finish => exact s.aside_finish _
  | followTyping text splices cursor => exact s.aside_followTyping place text splices cursor

theorem aside_bufferOpened (outcome : Except Failure Unit) :
    Aside s (s.bufferOpened place outcome) := by
  unfold bufferOpened
  split
  · exact s.aside_finish _
  · exact Aside.trans (s.mild_reportSending place _) (aside_finish _ _)

theorem aside_described (item : CompletionItem)
    (ask : Option (Except Failure (Option CompletionItem))) :
    Aside s (s.described place item ask) := by
  unfold described
  split
  · exact s.aside_stop _
  · exact s.aside_finish _

theorem aside_renameFailed (why : Failure) : Aside s (s.renameFailed place why) :=
  aside_finishAs (s.mild_reportFailure place why) _

theorem aside_renamePrepared (position : Position) (newName : String)
    (answer : Except Failure Value) :
    Aside s (s.renamePrepared place position newName answer) := by
  unfold renamePrepared
  split
  · exact s.aside_renameFailed place _
  · exact s.aside_renameFailed place _
  · exact s.aside_ask _ _

theorem aside_renameAnswered (answer : Except Failure Value) :
    Aside s (s.renameAnswered place answer) := by
  unfold renameAnswered
  split
  · exact s.aside_renameFailed place _
  · exact s.aside_finish _
  · rename_i v _
    dsimp only
    have h := s.mild_callHost place (s.buffer place).options.applyEdit
      (.applyEdit (Wire.conform .workspaceEdit v))
    split <;> rename_i after heq
    · rw [heq] at h
      exact Aside.trans h (aside_finish _ _)
    · rw [heq] at h
      exact Aside.trans h (aside_renameFailed _ place _)

theorem aside_definitionAnswered (answer : Except Failure Value) :
    Aside s (s.definitionAnswered place answer) := by
  unfold definitionAnswered
  split
  · exact s.aside_stop _
  · exact s.aside_finish _
  · exact s.aside_callHost place _ _ _

theorem aside_hoverAnswered (position : Position) (answer : Except Failure Value) :
    Aside s (s.hoverAnswered place position answer) := by
  unfold hoverAnswered
  split
  · exact s.aside_stop _
  · exact s.aside_finish _
  · split
    · exact s.aside_stop _
    · exact s.aside_finish _

theorem aside_completionAnswered (before : List Char) (offset : Int)
    (answer : Except Failure Value) :
    Aside s (s.completionAnswered place before offset answer) := by
  unfold completionAnswered
  split
  · exact s.aside_stop _
  · exact s.aside_finish _
  · exact s.aside_finish _

theorem aside_actionsAnswered (answer : Except Failure Value) :
    Aside s (s.actionsAnswered answer) := by
  unfold actionsAnswered
  split
  · exact s.aside_stop _
  · exact s.aside_finish _

theorem aside_helpAnswered (answer : Except Failure Value) : Aside s (s.helpAnswered answer) := by
  unfold helpAnswered
  split
  · exact s.aside_stop _
  · exact s.aside_finish _

theorem aside_shownHelpAnswered (offset : Int) (whileTyping : Bool)
    (answer : Except Failure Value) :
    Aside s (s.shownHelpAnswered place offset whileTyping answer) := by
  unfold shownHelpAnswered
  split
  · exact s.aside_helpFailed place _ _
  · exact s.aside_putHelp place _ _ _

/-- What an operation does with an answer touches no document. -/
theorem aside_answered (answer : Except Failure Value) (next : AfterAnswer) :
    Aside s (s.answered answer next) := by
  cases next with
  | handOn method => exact ⟨Mild.refl s, rfl⟩
  | hover place position => exact s.aside_hoverAnswered place position answer
  | complete place before offset => exact s.aside_completionAnswered place before offset answer
  | describe place item => exact s.aside_described place item _
  | define place => exact s.aside_definitionAnswered place answer
  | prepareRename place position newName =>
    exact s.aside_renamePrepared place position newName answer
  | rename place => exact s.aside_renameAnswered place answer
  | codeActions => exact s.aside_actionsAnswered answer
  | help => exact s.aside_helpAnswered answer
  | showHelp place offset whileTyping =>
    exact s.aside_shownHelpAnswered place offset whileTyping answer

theorem aside_askHover (position : Position) : Aside s (s.askHover place position) := by
  unfold askHover
  split
  · exact s.aside_ask _ _
  · exact s.aside_finish _

theorem aside_askCompletion (text : Document) (offset : Int) (explicit : Bool) :
    Aside s (s.askCompletion place text offset explicit) := by
  unfold askCompletion
  split
  · dsimp only
    split
    · exact s.aside_stop _
    · exact s.aside_finish _
    · exact s.aside_ask _ _
  · exact s.aside_finish _

theorem aside_describe (item : CompletionItem) : Aside s (s.describe place item) := by
  unfold describe
  split
  · exact s.aside_ask _ _
  · exact s.aside_described place item _

theorem aside_askDefinition (position : Position) : Aside s (s.askDefinition place position) := by
  unfold askDefinition
  split
  · exact s.aside_ask _ _
  · exact s.aside_finish _

theorem aside_askRename (position : Position) (newName : String) :
    Aside s (s.askRename place position newName) := by
  unfold askRename
  split
  · split
    · exact s.aside_ask _ _
    · exact s.aside_ask _ _
  · exact s.aside_finish _

theorem aside_askActions (range : Range) (diagnostics : List Value) :
    Aside s (s.askActions place range diagnostics) := by
  unfold askActions
  split
  · exact s.aside_ask _ _
  · exact s.aside_finish _

theorem aside_applyAction (edit : Option Value) : Aside s (s.applyAction place edit) := by
  unfold applyAction
  split
  · exact s.aside_callHost place _ _ _
  · exact s.aside_finish _

theorem aside_askSignatures (position : Position) (character : Option String) :
    Aside s (s.askSignatures place position character) := by
  unfold askSignatures
  split
  · exact s.aside_ask _ _
  · exact s.aside_finish _

theorem aside_sendRequest (method shape : String) (params : Value) (seconds : Double) :
    Aside s (s.sendRequest method shape params seconds) := by
  unfold sendRequest
  split
  · exact s.aside_stop _
  · exact s.aside_askWithin _ _ _

theorem aside_inBuffer (name : String) (act : Nat → Advance) (h : ∀ place, Aside s (act place)) :
    Aside s (s.inBuffer name act) := by
  unfold inBuffer
  split
  · exact s.aside_stop _
  · exact h _

end Operations
end Session

/-- Whether an operation only asks, shows or answers. -/
def Operation.isAside : Operation → Bool
  | perform _ | handshake | openBuffer _ _ | update _ _ _ _ | synchronize _ _ _ | refresh _
  | sendEvents _ _ | notify _ _ _ => false
  | _ => true

namespace Session

/-- An operation that only asks, shows or answers touches no document when it starts. -/
theorem aside_begin (s : Session) (depth who : Nat) {operation : Operation} {a : Advance}
    (h : operation.isAside = true) (hb : s.begin depth who operation = some a) : Aside s a := by
  cases operation with
  | perform | handshake | openBuffer | update | synchronize | refresh | sendEvents | notify =>
    cases h
  | hover name position =>
    cases hb; exact s.aside_inBuffer name _ fun place => s.aside_askHover place position
  | complete name text offset explicit =>
    cases hb
    exact s.aside_inBuffer name _ fun place => s.aside_askCompletion place text offset explicit
  | accept name item start stop =>
    cases hb; exact s.aside_inBuffer name _ fun _ => s.aside_finish _
  | describe name item =>
    cases hb; exact s.aside_inBuffer name _ fun place => s.aside_describe place item
  | define name position =>
    cases hb; exact s.aside_inBuffer name _ fun place => s.aside_askDefinition place position
  | rename name position newName =>
    cases hb; exact s.aside_inBuffer name _ fun place => s.aside_askRename place position newName
  | codeActions name range diagnostics =>
    cases hb; exact s.aside_inBuffer name _ fun place => s.aside_askActions place range diagnostics
  | applyAction name edit =>
    cases hb; exact s.aside_inBuffer name _ fun place => s.aside_applyAction place edit
  | help name position character =>
    cases hb
    exact s.aside_inBuffer name _ fun place => s.aside_askSignatures place position character
  | showHelp name offset character =>
    cases hb
    exact s.aside_inBuffer name _ fun place => s.aside_askHelp place offset character false
  | request method shape params seconds =>
    cases hb; exact s.aside_sendRequest method shape params seconds
  | answer method params =>
    cases hb
    split
    · exact s.aside_finish _
    · exact s.aside_stop _

/-! ## Sending -/

section Sending
variable (s : Session) (place : Nat)

theorem local_notify (notice : Notice) (next : AfterNotice) : Local s (s.notify notice next).1 :=
  s.local_record rfl

theorem local_sendNow (events : List ChangeEvent) (next : AfterChange) :
    Local s (s.sendNow place events next).1 := by
  refine Local.trans ?_ (local_notify _ _ _)
  exact s.local_modify place _ fun _ => rfl

theorem local_turnCame (next : AfterTurn) : Local s (s.turnCame place next).1 :=
  s.local_sendNow place _ _

theorem local_send (who : Nat) (events : List ChangeEvent) (next : AfterChange) :
    Local s (s.send who place events next).1 := by
  unfold send
  dsimp only
  split
  · exact (s.aside_afterChange place next).mild.local
  · split
    · refine Local.trans ?_ (local_sendNow _ _ _ _)
      exact s.local_modify place _ fun _ => rfl
    · exact s.local_modify place _ fun _ => rfl

theorem local_synchronize (who : Nat) (text : Document) (splices : Option (List Splice))
    (next : AfterChange) : Local s (s.synchronize who place text splices next).1 := by
  unfold synchronize
  dsimp only
  split
  · exact s.local_modify place _ fun _ => rfl
  · refine Local.trans ?_ (local_send _ _ _ _ _)
    exact s.local_modify place _ fun _ => rfl

theorem local_update (who : Nat) (text : Document) (splices : Option (List Splice))
    (cursor : Option Int) : Local s (s.update who place text splices cursor).1 := by
  unfold update
  split
  · exact Local.refl s
  · exact s.local_synchronize place who text splices _

theorem local_changeSent (next : AfterChange) (outcome : Except Failure Unit) :
    Local s (s.changeSent place next outcome).1 := by
  unfold changeSent
  dsimp only
  refine Local.trans ?_ (aside_afterChange _ _ _).mild.local
  cases outcome with
  | ok u => exact s.local_modify place _ fun _ => rfl
  | error why =>
    exact (s.mild_reportSending place why).local.trans (local_modify _ _ _ fun _ => rfl)

theorem local_openBuffer (text : Document) : Local s (s.openBuffer place text).1 := by
  refine Local.trans ?_ (local_notify _ _ _)
  exact s.local_modify place _ fun _ => rfl

theorem local_sendNotice (method shape : String) (params : Value) :
    Local s (s.sendNotice method shape params).1 := by
  unfold sendNotice
  split
  · exact Local.refl s
  · exact s.local_notify _ _

theorem local_noticeSent (outcome : Except Failure Unit) (next : AfterNotice) :
    Local s (s.noticeSent outcome next).1 := by
  cases next with
  | finish => exact Local.refl s
  | opened place => exact (s.aside_bufferOpened place outcome).mild.local
  | changed place next => exact s.local_changeSent place next outcome

theorem local_afterHandshake (next : AfterHandshake) (outcome : Except Failure Unit) :
    Local s (s.afterHandshake next outcome).1 := by
  cases outcome with
  | error why => exact Local.refl s
  | ok u =>
    cases next with
    | finish => exact Local.refl s
    | openBuffer place text => exact s.local_openBuffer place text

theorem local_inBuffer (name : String) (act : Nat → Advance) (h : ∀ place, Local s (act place).1) :
    Local s (s.inBuffer name act).1 := by
  unfold inBuffer
  split
  · exact Local.refl s
  · exact h _

/-- Whoever is not on the way to the handshake and gives no command changes nothing but
buffers when it starts. -/
theorem local_begin (depth who : Nat) {operation : Operation} {a : Advance}
    (h : s.begin depth who operation = some a) :
    Local s a.1 ∨ (∃ command, operation = .perform command) ∨ operation = .handshake ∨
      ∃ name text, operation = .openBuffer name text := by
  by_cases ha : operation.isAside = true
  · exact .inl (s.aside_begin depth who ha h).mild.local
  · cases operation with
    | perform command => exact .inr (.inl ⟨command, rfl⟩)
    | handshake => exact .inr (.inr (.inl rfl))
    | openBuffer name text => exact .inr (.inr (.inr ⟨name, text, rfl⟩))
    | update name text splices cursor =>
      cases h
      exact .inl (s.local_inBuffer name _ fun place => s.local_update place who text splices cursor)
    | synchronize name text splices =>
      cases h
      exact .inl (s.local_inBuffer name _ fun place =>
        s.local_synchronize place who text splices _)
    | refresh name =>
      cases h
      exact .inl (s.local_inBuffer name _ fun place => s.local_send place who _ _)
    | sendEvents name events =>
      cases h
      exact .inl (s.local_inBuffer name _ fun place => s.local_send place who events _)
    | notify method shape params =>
      cases h
      exact .inl (s.local_sendNotice method shape params)
    | _ => exact absurd rfl ha

end Sending

/-! ## Commands -/

section Commands
variable {R : Session → Session → Prop}

/-- What a relation must hold of so that it holds of whatever commands do. -/
structure CommandInvariant (R : Session → Session → Prop) : Prop where
  refl : ∀ s, R s s
  trans : ∀ {s t u}, R s t → R t u → R s u
  apply : ∀ s c, R s (s.apply c).1
  showFindings : ∀ s place push, R s (s.showFindings place push)
  heard : ∀ s name push, R s (s.record (.heard name push))

theorem CommandInvariant.commandWith (inv : CommandInvariant R)
    {publish : Session → Push → Option Session}
    (hp : ∀ {s push s'}, publish s push = some s' → R s s') {s : Session} {c : Command}
    {a : Session × Except Failure Unit} (h : commandWith publish s c = some a) : R s a.1 := by
  cases c with
  | publish push =>
    obtain ⟨after, ha, rfl⟩ := Option.map_eq_some_iff.mp h
    exact hp ha
  | create | attach | detach | close | listen | dispose | setFeatures | hideTooltip | note | fail =>
    cases h
    exact inv.apply s _

theorem CommandInvariant.commandsWith (inv : CommandInvariant R)
    {publish : Session → Push → Option Session}
    (hp : ∀ {s push s'}, publish s push = some s' → R s s') {s s' : Session} {cs : List Command}
    (h : commandsWith publish s cs = some s') : R s s' := by
  induction cs generalizing s with
  | nil =>
    cases h
    exact inv.refl _
  | cons c rest ih =>
    simp only [Session.commandsWith, Option.bind_eq_bind, Option.bind_eq_some_iff] at h
    obtain ⟨⟨after, outcome⟩, hc, h⟩ := h
    have hs : R s after := inv.commandWith hp hc
    cases outcome with
    | ok u => exact inv.trans hs (ih h)
    | error why =>
      cases h
      exact hs

theorem CommandInvariant.publishWith (inv : CommandInvariant R)
    {perform : Session → List Command → Option Session}
    (hp : ∀ {s cs s'}, perform s cs = some s' → R s s') {s s' : Session} {push : Push}
    (h : publishWith perform s push = some s') : R s s' := by
  unfold Session.publishWith at h
  -- those who listen are fixed before the first of them is told
  generalize s.broadcast.listeners = listeners at h
  induction listeners generalizing s with
  | nil =>
    cases h
    exact inv.refl _
  | cons subscriber rest ih =>
    simp only [List.foldlM_cons, Option.bind_eq_bind, Option.bind_eq_some_iff] at h
    obtain ⟨after, ht, h⟩ := h
    have hs : R s after := by
      cases subscriber with
      | buffer place =>
        exact inv.trans (inv.showFindings s place push) (hp ht)
      | host place =>
        simp only [tellWith] at ht
        split at ht
        · cases ht
          exact inv.refl s
        · exact inv.trans (inv.heard s _ push) (hp ht)
    exact inv.trans hs (ih h)

theorem CommandInvariant.commands (inv : CommandInvariant R) (depth : Nat) {s s' : Session}
    {cs : List Command} (h : commands depth s cs = some s') : R s s' := by
  induction depth generalizing s s' cs with
  | zero => exact inv.commandsWith (by simp) h
  | succ depth ih => exact inv.commandsWith (fun hp => inv.publishWith (fun hc => ih hc) hp) h

/-- A relation that holds of single steps holds of a command and of all that listeners
make of it. -/
theorem CommandInvariant.perform (inv : CommandInvariant R) {depth : Nat} {s : Session}
    {c : Command} {a : Session × Except Failure Unit} (h : s.perform depth c = some a) :
    R s a.1 :=
  inv.commandWith (fun hp => inv.publishWith (fun hc => inv.commands depth hc) hp) h

end Commands
end Session
end EditorLink
