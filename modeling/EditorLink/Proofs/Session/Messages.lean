import EditorLink.Proofs.Session.Frame
import Mathlib.Data.List.Nodup

/-!
# What operations send

Each time an operation goes on it sends one message at most, and then it waits for what
becomes of this message. Questions and changes are sent on a ready session only. What goes
out without a look at the session follows something that was waited for: the text of a
document after the handshake, a change whose turn has come, and a renaming after the
server has found the symbol.
-/
namespace EditorLink

/-! ## Messages that the host composes -/

/-- A method is let through if and only if it has the name and its parameters the shape. -/
theorem checkMethod_eq_ok {Method : Type} {methods : List Method} {nameOf shapeOf : Method → String}
    (hnames : (methods.map nameOf).Nodup) {name shape : String} {m : Method} :
    checkMethod methods nameOf shapeOf name shape = .ok m ↔
      m ∈ methods ∧ nameOf m = name ∧ shapeOf m = shape := by
  unfold checkMethod
  constructor
  · intro h
    split at h
    · cases h
    · rename_i found hfound
      split at h
      · rename_i hshape
        cases h
        exact ⟨List.mem_of_find?_eq_some hfound, by simpa using List.find?_some hfound, hshape⟩
      · cases h
  · rintro ⟨hm, rfl, rfl⟩
    have hknown : (methods.find? (nameOf · = nameOf m)).isSome = true :=
      List.find?_isSome.mpr ⟨m, hm, by simp⟩
    obtain ⟨found, hfound⟩ := Option.isSome_iff_exists.mp hknown
    have hname : nameOf found = nameOf m := by simpa using List.find?_some hfound
    obtain rfl := List.inj_on_of_nodup_map hnames (List.mem_of_find?_eq_some hfound) hm hname
    rw [hfound]
    exact if_pos rfl

theorem RequestMethod.check_eq_ok {name shape : String} {m : RequestMethod} :
    RequestMethod.check name shape = .ok m ↔ m.name = name ∧ m.shape = shape :=
  (checkMethod_eq_ok (by decide)).trans (and_iff_right (by cases m <;> decide))

theorem NoticeMethod.check_eq_ok {name shape : String} {m : NoticeMethod} :
    NoticeMethod.check name shape = .ok m ↔ m.name = name ∧ m.shape = shape :=
  (checkMethod_eq_ok (by decide)).trans (and_iff_right (by cases m <;> decide))

/-! ## Messages of a session -/

/-- Whether an event is a message that was handed to the transport. -/
def Event.isMessage : Event → Bool
  | .requested _ _ | .handed _ => true
  | _ => false

/-- Whether an event is the request that introduces the editor. -/
def Event.isIntroduction : Event → Bool
  | .requested (.introduce _) _ => true
  | _ => false

/-- Whether an event is the notice that the session starts. -/
def Event.isAnnouncement : Event → Bool
  | .handed .initialized => true
  | _ => false

/-- Whether an event is a message of the handshake. -/
def Event.isHandshake (e : Event) : Bool := e.isIntroduction || e.isAnnouncement

/-- The message of which an operation waits to hear what became of it. -/
def Progress.message? : Progress → Option Event
  | .paused (.notice n _) => some (.handed n)
  | .paused (.answer request seconds _) => some (.requested request seconds)
  | _ => none

/-- Whether an operation sends a message that the host composed. -/
def Operation.isDirect : Operation → Bool
  | request _ _ _ _ | notify _ _ _ => true
  | _ => false

/-- Whether an operation is neither a handshake, nor waits for one, nor sends a message that the
host composed. -/
def Operation.isGated : Operation → Bool
  | handshake | openBuffer _ _ | request _ _ _ _ | notify _ _ _ => false
  | _ => true

/-- Whether an operation that has its answer sends another request, whatever has become of
the session: the server has found a symbol that is to be renamed. -/
def AfterAnswer.insists (answer : Except Failure Value) : AfterAnswer → Bool
  | .prepareRename _ _ _ =>
    match answer with
    | .error _ | .ok .null => false
    | .ok _ => true
  | _ => false

/-- Whether an operation sends something after the handshake, whatever has become of the
session: it was to open a document, and the handshake has succeeded. -/
def AfterHandshake.insists (outcome : Except Failure Unit) : AfterHandshake → Bool
  | .openBuffer _ _ => outcome.isOk
  | .finish => false

namespace Session

/-- The messages that were handed to the transport, in turn. -/
def messages (s : Session) : List Event := s.trace.filter Event.isMessage

/-- An operation has gone on and has sent the message that it waits for now, if any. It sends
none that belongs to the handshake, and only under a condition. -/
structure Speaks (P : Prop) (s : Session) (a : Advance) : Prop where
  messages : a.1.messages = s.messages ++ a.2.message?.toList
  allowed : ∀ e, a.2.message? = some e → e.isHandshake = false ∧ P

@[simp] theorem messages_modify (s : Session) (place : Nat) (f : Buffer → Buffer) :
    (s.modify place f).messages = s.messages := rfl

theorem messages_record (s : Session) {e : Event} (h : e.isMessage = false) :
    (s.record e).messages = s.messages := by
  simp [messages, record, h]

theorem messages_record_message (s : Session) {e : Event} (h : e.isMessage = true) :
    (s.record e).messages = s.messages ++ [e] := by
  simp [messages, record, h]

theorem messages_callHost (s : Session) (place : Nat) (f : Callback) (call : HostCall) :
    (s.callHost place f call).1.messages = s.messages := by
  cases f with
  | none => rfl
  | some fails => exact s.messages_record rfl

theorem messages_reportFailure (s : Session) (place : Nat) (why : Failure) :
    (s.reportFailure place why).1.messages = s.messages :=
  s.messages_callHost place _ _

theorem messages_reportSending (s : Session) (place : Nat) (why : Failure) :
    (s.reportSending place why).messages = s.messages := by
  unfold reportSending
  split
  · exact s.messages_reportFailure place why
  · rfl

theorem Mild.isReady {s s' : Session} (h : Mild s s') : s'.isReady = s.isReady := by
  obtain ⟨buffers, events, rfl, -, -⟩ := h
  rfl

theorem isReady_of_allows {s : Session} {place : Nat} {feature : Feature}
    {offers : ServerCapabilities → Bool} (h : s.allows place feature offers = true) :
    s.isReady = true := by
  simp only [allows, Bool.and_eq_true] at h
  exact h.1.2

section
variable {P Q : Prop} {s t : Session} {a : Advance}

theorem Speaks.mono (h : Speaks P s a) (hPQ : P → Q) : Speaks Q s a :=
  ⟨h.messages, fun e he => ⟨(h.allowed e he).1, hPQ (h.allowed e he).2⟩⟩

theorem Speaks.trans (ht : t.messages = s.messages) (h : Speaks P t a) : Speaks P s a :=
  ⟨ht ▸ h.messages, h.allowed⟩

/-- Where the condition fails nothing is sent. -/
theorem Speaks.messages_eq (h : Speaks P s a) (hP : ¬ P) : a.1.messages = s.messages := by
  cases hm : a.2.message? with
  | none => simp [h.messages, hm]
  | some e => exact absurd (h.allowed e hm).2 hP

theorem Speaks.length_lt (h : Speaks P s a) (hm : a.2.message?.isSome = true) :
    s.messages.length < a.1.messages.length := by
  obtain ⟨e, he⟩ := Option.isSome_iff_exists.mp hm
  simp [h.messages, he]

/-- Whoever is over has sent nothing. -/
theorem speaks_finished {outcome : Except Failure Result} (h : t.messages = s.messages) :
    Speaks P s (t, .finished outcome) :=
  ⟨by simp [h, Progress.message?], by simp [Progress.message?]⟩

theorem speaks_finish (s : Session) (r : Result) : Speaks P s (s.finish r) := speaks_finished rfl

theorem speaks_stop (s : Session) (why : Failure) : Speaks P s (s.stop why) := speaks_finished rfl

theorem speaks_askWithin (s : Session) {request : Request} (seconds : Double) (next : AfterAnswer)
    (hr : (Event.requested request seconds).isHandshake = false) (hP : P) :
    Speaks P s (s.askWithin seconds request next) where
  messages := s.messages_record_message rfl
  allowed e he := by
    cases he
    exact ⟨hr, hP⟩

theorem speaks_ask (s : Session) {request : Request} (next : AfterAnswer)
    (hr : (Event.requested request s.settings.seconds).isHandshake = false) (hP : P) :
    Speaks P s (s.ask request next) :=
  s.speaks_askWithin _ next hr hP

theorem speaks_notify (s : Session) {notice : Notice} (next : AfterNotice)
    (hn : (Event.handed notice).isHandshake = false) (hP : P) :
    Speaks P s (s.notify notice next) where
  messages := s.messages_record_message rfl
  allowed e he := by
    cases he
    exact ⟨hn, hP⟩

end

/-! ## Showing and asking -/

section Operations
variable {P : Prop} (s : Session) (place : Nat)

theorem speaks_helpFailed (whileTyping : Bool) (why : Failure) :
    Speaks P s (s.helpFailed place whileTyping why) := by
  unfold helpFailed
  split
  · exact speaks_finished (messages_reportFailure (s.hideTooltip place) place why)
  · exact s.speaks_stop why

theorem speaks_putHelp (offset : Int) (whileTyping : Bool) (help : Option SignatureHelp) :
    Speaks P s (s.putHelp place offset whileTyping help) := by
  unfold putHelp
  dsimp only
  split
  · exact s.speaks_helpFailed place _ _
  · exact speaks_finished rfl
  · exact speaks_finished rfl

theorem speaks_askHelp (offset : Int) (character : Option String) (whileTyping : Bool) :
    Speaks (s.isReady = true) s (s.askHelp place offset character whileTyping) := by
  unfold askHelp
  split
  · exact s.speaks_helpFailed place _ _
  · split
    · rename_i h
      exact s.speaks_ask _ rfl (isReady_of_allows h)
    · exact s.speaks_putHelp place _ _ _

theorem speaks_followTyping (text : Document) (splices : List Splice) (cursor : Option Int) :
    Speaks (s.isReady = true) s (s.followTyping place text splices cursor) := by
  unfold followTyping
  dsimp only
  split
  · exact s.speaks_finish _
  · split
    · exact s.speaks_askHelp place _ _ _
    · split
      · exact s.speaks_finish _
      · split
        · exact s.speaks_helpFailed place _ _
        · exact s.speaks_finish _
        · exact speaks_finished rfl

theorem speaks_afterChange (next : AfterChange) :
    Speaks (s.isReady = true) s (s.afterChange place next) := by
  cases next with
  | finish => exact s.speaks_finish _
  | followTyping text splices cursor => exact s.speaks_followTyping place text splices cursor

theorem speaks_bufferOpened (outcome : Except Failure Unit) :
    Speaks P s (s.bufferOpened place outcome) := by
  unfold bufferOpened
  split
  · exact s.speaks_finish _
  · exact speaks_finished (s.messages_reportSending place _)

theorem speaks_described (item : CompletionItem)
    (ask : Option (Except Failure (Option CompletionItem))) :
    Speaks P s (s.described place item ask) := by
  unfold described
  split
  · exact s.speaks_stop _
  · exact s.speaks_finish _

theorem speaks_renameFailed (why : Failure) : Speaks P s (s.renameFailed place why) :=
  speaks_finished (s.messages_reportFailure place why)

theorem speaks_renamePrepared (position : Position) (newName : String)
    (answer : Except Failure Value) :
    Speaks ((AfterAnswer.prepareRename place position newName).insists answer = true) s
      (s.renamePrepared place position newName answer) := by
  unfold renamePrepared
  split
  · exact s.speaks_renameFailed place _
  · exact s.speaks_renameFailed place _
  · rename_i v hv
    refine s.speaks_ask _ rfl ?_
    cases v <;> first | rfl | exact absurd rfl hv

theorem speaks_renameAnswered (answer : Except Failure Value) :
    Speaks P s (s.renameAnswered place answer) := by
  unfold renameAnswered
  split
  · exact s.speaks_renameFailed place _
  · exact s.speaks_finish _
  · rename_i v _
    dsimp only
    have h := s.messages_callHost place (s.buffer place).options.applyEdit
      (.applyEdit (Wire.conform .workspaceEdit v))
    split <;> rename_i after heq
    · rw [heq] at h
      exact speaks_finished h
    · rw [heq] at h
      exact Speaks.trans h (speaks_renameFailed _ place _)

theorem speaks_definitionAnswered (answer : Except Failure Value) :
    Speaks P s (s.definitionAnswered place answer) := by
  unfold definitionAnswered
  split
  · exact s.speaks_stop _
  · exact s.speaks_finish _
  · exact speaks_finished (s.messages_callHost place _ _)

theorem speaks_hoverAnswered (position : Position) (answer : Except Failure Value) :
    Speaks P s (s.hoverAnswered place position answer) := by
  unfold hoverAnswered
  split
  · exact s.speaks_stop _
  · exact s.speaks_finish _
  · split
    · exact s.speaks_stop _
    · exact s.speaks_finish _

theorem speaks_completionAnswered (before : List Char) (offset : Int)
    (answer : Except Failure Value) :
    Speaks P s (s.completionAnswered place before offset answer) := by
  unfold completionAnswered
  split
  · exact s.speaks_stop _
  · exact s.speaks_finish _
  · exact s.speaks_finish _

theorem speaks_actionsAnswered (answer : Except Failure Value) :
    Speaks P s (s.actionsAnswered answer) := by
  unfold actionsAnswered
  split
  · exact s.speaks_stop _
  · exact s.speaks_finish _

theorem speaks_helpAnswered (answer : Except Failure Value) :
    Speaks P s (s.helpAnswered answer) := by
  unfold helpAnswered
  split
  · exact s.speaks_stop _
  · exact s.speaks_finish _

theorem speaks_shownHelpAnswered (offset : Int) (whileTyping : Bool)
    (answer : Except Failure Value) :
    Speaks P s (s.shownHelpAnswered place offset whileTyping answer) := by
  unfold shownHelpAnswered
  split
  · exact s.speaks_helpFailed place _ _
  · exact s.speaks_putHelp place _ _ _

/-- After an answer nothing is sent, but for a renaming. -/
theorem speaks_answered (answer : Except Failure Value) (next : AfterAnswer) :
    Speaks (next.insists answer = true) s (s.answered answer next) := by
  cases next with
  | handOn method => exact speaks_finished rfl
  | hover place position => exact s.speaks_hoverAnswered place position answer
  | complete place before offset => exact s.speaks_completionAnswered place before offset answer
  | describe place item => exact s.speaks_described place item _
  | define place => exact s.speaks_definitionAnswered place answer
  | prepareRename place position newName =>
    exact s.speaks_renamePrepared place position newName answer
  | rename place => exact s.speaks_renameAnswered place answer
  | codeActions => exact s.speaks_actionsAnswered answer
  | help => exact s.speaks_helpAnswered answer
  | showHelp place offset whileTyping =>
    exact s.speaks_shownHelpAnswered place offset whileTyping answer

theorem speaks_askHover (position : Position) :
    Speaks (s.isReady = true) s (s.askHover place position) := by
  unfold askHover
  split
  · rename_i h
    exact s.speaks_ask _ rfl (isReady_of_allows h)
  · exact s.speaks_finish _

theorem speaks_askCompletion (text : Document) (offset : Int) (explicit : Bool) :
    Speaks (s.isReady = true) s (s.askCompletion place text offset explicit) := by
  unfold askCompletion
  split
  · rename_i h
    dsimp only
    split
    · exact s.speaks_stop _
    · exact s.speaks_finish _
    · exact s.speaks_ask _ rfl (isReady_of_allows h)
  · exact s.speaks_finish _

theorem speaks_describe (item : CompletionItem) :
    Speaks (s.isReady = true) s (s.describe place item) := by
  unfold describe
  split
  · rename_i h
    exact s.speaks_ask _ rfl (Bool.and_eq_true_iff.mp h).1
  · exact s.speaks_described place item _

theorem speaks_askDefinition (position : Position) :
    Speaks (s.isReady = true) s (s.askDefinition place position) := by
  unfold askDefinition
  split
  · rename_i h
    exact s.speaks_ask _ rfl (isReady_of_allows h)
  · exact s.speaks_finish _

theorem speaks_askRename (position : Position) (newName : String) :
    Speaks (s.isReady = true) s (s.askRename place position newName) := by
  unfold askRename
  split
  · rename_i h
    split
    · exact s.speaks_ask _ rfl (isReady_of_allows h)
    · exact s.speaks_ask _ rfl (isReady_of_allows h)
  · exact s.speaks_finish _

theorem speaks_askActions (range : Range) (diagnostics : List Value) :
    Speaks (s.isReady = true) s (s.askActions place range diagnostics) := by
  unfold askActions
  split
  · rename_i h
    exact s.speaks_ask _ rfl (isReady_of_allows h)
  · exact s.speaks_finish _

theorem speaks_applyAction (edit : Option Value) : Speaks P s (s.applyAction place edit) := by
  unfold applyAction
  split
  · exact speaks_finished (s.messages_callHost place _ _)
  · exact s.speaks_finish _

theorem speaks_askSignatures (position : Position) (character : Option String) :
    Speaks (s.isReady = true) s (s.askSignatures place position character) := by
  unfold askSignatures
  split
  · rename_i h
    exact s.speaks_ask _ rfl (isReady_of_allows h)
  · exact s.speaks_finish _

theorem speaks_inBuffer (name : String) (act : Nat → Advance)
    (h : ∀ place, Speaks P s (act place)) : Speaks P s (s.inBuffer name act) := by
  unfold inBuffer
  split
  · exact s.speaks_stop _
  · exact h _

/-! ## Sending -/

theorem speaks_sendNow (events : List ChangeEvent) (next : AfterChange) :
    Speaks True s (s.sendNow place events next) := by
  refine Speaks.trans ?_ (speaks_notify _ _ rfl trivial)
  rfl

theorem speaks_turnCame (next : AfterTurn) : Speaks True s (s.turnCame place next) :=
  s.speaks_sendNow place _ _

theorem speaks_send (who : Nat) (events : List ChangeEvent) (next : AfterChange) :
    Speaks (s.isReady = true) s (s.send who place events next) := by
  unfold send
  dsimp only
  split
  · exact s.speaks_afterChange place next
  · rename_i h
    have hr : s.isReady = true := by
      cases hr : s.isReady with
      | true => rfl
      | false => simp [hr] at h
    split
    · refine Speaks.trans ?_ ((speaks_sendNow _ place events next).mono fun _ => hr)
      rfl
    · exact ⟨by simp [Progress.message?], by simp [Progress.message?]⟩

theorem speaks_synchronize (who : Nat) (text : Document) (splices : Option (List Splice))
    (next : AfterChange) :
    Speaks (s.isReady = true) s (s.synchronize who place text splices next) := by
  unfold synchronize
  dsimp only
  split
  · exact speaks_finished rfl
  · refine Speaks.trans ?_ ((speaks_send _ place who _ _).mono fun h => h)
    rfl

theorem speaks_update (who : Nat) (text : Document) (splices : Option (List Splice))
    (cursor : Option Int) :
    Speaks (s.isReady = true) s (s.update who place text splices cursor) := by
  unfold update
  split
  · exact s.speaks_finish _
  · exact s.speaks_synchronize place who text splices _

theorem speaks_changeSent (next : AfterChange) (outcome : Except Failure Unit) :
    Speaks (s.isReady = true) s (s.changeSent place next outcome) := by
  unfold changeSent
  dsimp only
  cases outcome with
  | ok u =>
    refine Speaks.trans ?_ ((speaks_afterChange _ place next).mono fun h => h)
    rfl
  | error why =>
    have hr := (s.mild_reportSending place why).isReady
    refine Speaks.trans ?_ ((speaks_afterChange _ place next).mono fun h => hr ▸ h)
    exact s.messages_reportSending place why

theorem speaks_openBuffer (text : Document) : Speaks True s (s.openBuffer place text) := by
  refine Speaks.trans ?_ (speaks_notify _ _ rfl trivial)
  rfl

theorem speaks_noticeSent (outcome : Except Failure Unit) (next : AfterNotice) :
    Speaks (s.isReady = true) s (s.noticeSent outcome next) := by
  cases next with
  | finish => exact speaks_finished rfl
  | opened place => exact s.speaks_bufferOpened place outcome
  | changed place next => exact s.speaks_changeSent place next outcome

/-- After the handshake nothing is sent but the text of a document. -/
theorem speaks_afterHandshake (next : AfterHandshake) (outcome : Except Failure Unit) :
    Speaks (next.insists outcome = true) s (s.afterHandshake next outcome) := by
  cases outcome with
  | error why => cases next <;> exact s.speaks_stop why
  | ok u =>
    cases next with
    | finish => exact s.speaks_finish _
    | openBuffer place text => exact (s.speaks_openBuffer place text).mono fun _ => rfl

@[simp] theorem messages_joined (s : Session) : s.joined.1.messages = s.messages := by
  unfold joined
  split <;> rfl

/-- Whoever asks for the handshake sends nothing, unless the handshake has succeeded. -/
theorem speaks_handshake (next : AfterHandshake) :
    Speaks (s.phase ≠ .closed ∧ Exchange.succeeded ∈ s.exchanges) s
      (s.handshake next) := by
  unfold handshake
  split
  · exact s.speaks_stop _
  · rename_i hc
    dsimp only
    split
    · rename_i outcome ho
      refine Speaks.trans s.messages_joined ((speaks_afterHandshake _ next outcome).mono fun hi => ?_)
      refine ⟨hc, ?_⟩
      -- an exchange that was asked for just now has no outcome yet
      obtain ⟨e, he, hout⟩ := Option.bind_eq_some_iff.mp ho
      have hs : e = .succeeded := by
        cases e with
        | succeeded => rfl
        | failed why =>
          cases hout
          cases next <;> cases hi
        | _ => cases hout
      subst hs
      unfold joined at he
      split at he
      · exact List.mem_of_getElem? he
      · simp at he
    · exact ⟨by simp [Progress.message?], by simp [Progress.message?]⟩

end Operations

/-! ## Starting -/

theorem messages_close (s : Session) : s.close.messages = s.messages := by
  unfold close
  split
  · rfl
  · exact messages_record _ rfl

theorem messages_attach (s : Session) (place : Nat) : (s.attach place).messages = s.messages := by
  unfold attach
  split <;> rfl

theorem messages_detach (s : Session) (place : Nat) : (s.detach place).messages = s.messages := by
  unfold detach
  split
  · rfl
  · dsimp only
    split
    · exact messages_close _
    · rfl

theorem messages_onBuffer (s : Session) (name : String) (act : Nat → Session)
    (h : ∀ place, (act place).messages = s.messages) :
    (s.onBuffer name act).1.messages = s.messages := by
  unfold onBuffer
  split
  · rfl
  · exact h _

theorem messages_showFindings (s : Session) (place : Nat) (push : Push) :
    (s.showFindings place push).messages = s.messages := by
  unfold showFindings
  dsimp only
  split
  · split
    · exact s.messages_callHost place _ _
    · rfl
  · rfl

theorem messages_apply (s : Session) (c : Command) : (s.apply c).1.messages = s.messages := by
  cases c with
  | create name uri language options => exact messages_attach _ _
  | attach name => exact s.messages_onBuffer name _ s.messages_attach
  | detach name => exact s.messages_onBuffer name _ s.messages_detach
  | close => exact s.messages_close
  | dispose name =>
    unfold apply dispose
    dsimp only
    split <;> rfl
  | setFeatures name changes => exact s.messages_onBuffer name _ fun _ => rfl
  | hideTooltip name => exact s.messages_onBuffer name _ fun _ => rfl
  | note what => exact s.messages_record rfl
  | listen | publish | fail => rfl

/-- Commands send nothing. -/
theorem messages_commands : CommandInvariant fun s t => t.messages = s.messages where
  refl _ := rfl
  trans h h' := h'.trans h
  apply := messages_apply
  showFindings := messages_showFindings
  heard s _ _ := s.messages_record rfl

/-- Whatever is no handshake, and no message that the host composed, sends something on a ready
session only when it starts. -/
theorem speaks_gated (s : Session) (depth who : Nat) {operation : Operation} {a : Advance}
    (gated : operation.isGated = true) (h : s.begin depth who operation = some a) :
    Speaks (s.isReady = true) s a := by
  cases operation with
  | handshake | openBuffer | request | notify => cases gated
  | perform command =>
    obtain ⟨b, hb, rfl⟩ := Option.map_eq_some_iff.mp h
    exact speaks_finished (messages_commands.perform hb)
  | update name text splices cursor =>
    cases h
    exact s.speaks_inBuffer name _ fun place => s.speaks_update place who text splices cursor
  | synchronize name text splices =>
    cases h
    exact s.speaks_inBuffer name _ fun place => s.speaks_synchronize place who text splices _
  | refresh name =>
    cases h
    exact s.speaks_inBuffer name _ fun place => s.speaks_send place who _ _
  | sendEvents name events =>
    cases h
    exact s.speaks_inBuffer name _ fun place => s.speaks_send place who events _
  | hover name position =>
    cases h
    exact s.speaks_inBuffer name _ fun place => s.speaks_askHover place position
  | complete name text offset explicit =>
    cases h
    exact s.speaks_inBuffer name _ fun place => s.speaks_askCompletion place text offset explicit
  | accept name item start stop =>
    cases h
    exact s.speaks_inBuffer name _ fun _ => s.speaks_finish _
  | describe name item =>
    cases h
    exact s.speaks_inBuffer name _ fun place => s.speaks_describe place item
  | define name position =>
    cases h
    exact s.speaks_inBuffer name _ fun place => s.speaks_askDefinition place position
  | rename name position newName =>
    cases h
    exact s.speaks_inBuffer name _ fun place => s.speaks_askRename place position newName
  | codeActions name range diagnostics =>
    cases h
    exact s.speaks_inBuffer name _ fun place => s.speaks_askActions place range diagnostics
  | applyAction name edit =>
    cases h
    exact s.speaks_inBuffer name _ fun place => s.speaks_applyAction place edit
  | help name position character =>
    cases h
    exact s.speaks_inBuffer name _ fun place => s.speaks_askSignatures place position character
  | showHelp name offset character =>
    cases h
    exact s.speaks_inBuffer name _ fun place => s.speaks_askHelp place offset character false
  | answer method params =>
    cases h
    split
    · exact s.speaks_finish _
    · exact s.speaks_stop _

/-- Messages of the host are sent at any time; whatever else an operation sends when it
starts is sent on a ready session, or after a handshake that has succeeded. -/
theorem speaks_begin (s : Session) (depth who : Nat) {operation : Operation} {a : Advance}
    (h : s.begin depth who operation = some a) :
    Speaks (operation.isDirect = true ∨ s.isReady = true ∨
      s.phase ≠ .closed ∧ Exchange.succeeded ∈ s.exchanges) s a := by
  by_cases gated : operation.isGated = true
  · exact (s.speaks_gated depth who gated h).mono fun hr => .inr (.inl hr)
  · cases operation with
    | handshake => cases h; exact (s.speaks_handshake _).mono fun hs => .inr (.inr hs)
    | openBuffer name text =>
      cases h
      exact s.speaks_inBuffer name _ fun place =>
        (s.speaks_handshake _).mono fun hs => .inr (.inr hs)
    | request method shape params seconds =>
      cases h
      unfold sendRequest
      split
      · exact s.speaks_stop _
      · exact s.speaks_askWithin _ _ rfl (.inl rfl)
    | notify method shape params =>
      cases h
      unfold sendNotice
      split
      · exact s.speaks_stop _
      · exact s.speaks_notify _ rfl (.inl rfl)
    | _ => exact absurd rfl gated

end Session
end EditorLink
