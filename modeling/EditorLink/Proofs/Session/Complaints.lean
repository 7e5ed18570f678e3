import EditorLink.Proofs.Session.Deeds
import EditorLink.Proofs.Session.Exchanges

/-!
# What hosts are told about failures

Some failures are not those of an operation: that a notice about a document could not be sent,
and whatever goes wrong with a renaming or with signature help that follows what is typed. The
host of the buffer is told about these instead, if it wants to know: about each of them once,
when it is met, and about nothing else.
-/
namespace EditorLink

/-- Why something has failed, if it has. -/
def failureOf {α : Type} : Except Failure α → Option Failure
  | .ok _ => none
  | .error why => some why

/-- The failure that the host of a buffer is told about, and the buffer. -/
def Event.complaint? : Event → Option (Nat × Failure)
  | .called place (.reportFailure why) => some (place, why)
  | _ => none

/-- Whether an operation waits for something whose failures the host of a buffer is told about:
a change and signature help that follows it, or a renaming. -/
def Pause.isGuarded (place : Nat) (typing : Bool) : Pause → Bool
  | .turn other _ | .notice _ (.changed other _) | .answer _ _ (.showHelp other _ true) =>
    typing && other = place
  | .answer _ _ (.prepareRename other _ _) | .answer _ _ (.rename other) =>
    !typing && other = place
  | _ => false

/-- What goes wrong when signature help follows what was typed in a buffer, as far as this is
known before the server is asked. -/
def Buffer.typingTrouble? (b : Buffer) (capabilities : Option ServerCapabilities) (text : Document)
    (splices : List Splice) (cursor : Option Int) : Option Failure :=
  if splices.isEmpty || !b.options.features .signatureHelp ||
      !b.options.features .signatureWhileTyping then none
  else
    match Session.typedTrigger (ServerCapabilities.signatureCharacters capabilities) text splices with
    | some t => failureOf (b.text.positionOf t.offset)
    | none =>
      if b.tooltip.isNone then none
      else failureOf (insideCall text (Session.cursorAfter text splices cursor) b.options.linesBack)

/-- What goes wrong with that which is still to do when a change has been sent. -/
def AfterChange.trouble? (b : Buffer) (capabilities : Option ServerCapabilities) :
    AfterChange → Option Failure
  | .finish => none
  | .followTyping text splices cursor => b.typingTrouble? capabilities text splices cursor

namespace Session

/-- What hosts were told about failures so far, and of which buffers. -/
def complaints (s : Session) : List (Nat × Failure) := s.trace.filterMap Event.complaint?

/-- Whether the host of a buffer wants to be told about failures. -/
def hears (s : Session) (place : Nat) : Bool := (s.buffer place).options.reportFailure.isSome

/-- What goes wrong when a buffer follows the editor and nothing is sent, because the session is
not ready or the document is not open. -/
def updateTrouble? (s : Session) (place : Nat) (text : Document) (splices : Option (List Splice))
    (cursor : Option Int) : Option Failure :=
  let b := s.buffer place
  if text = b.text || s.isReady && b.isOpen ||
      (failureOf (eventsOf b.options.incremental b.text text splices)).isSome then none
  else { b with text := text }.typingTrouble? s.capabilities text (splices.getD []) cursor

/-- What goes wrong when an operation begins, where the host is told about it, and in which
buffer. -/
def beginTrouble? (s : Session) : Operation → Option (Nat × Failure)
  | .update name text splices cursor =>
    (s.find? name).bind fun place => (s.updateTrouble? place text splices cursor).map (place, ·)
  | _ => none

/-- What goes wrong when a renaming is prepared: the server fails, or finds nothing to rename. -/
def preparingTrouble? : Except Failure Value → Option Failure
  | .error why => some why
  | .ok .null => some .nothingToRename
  | .ok _ => none

/-- What goes wrong with a renaming: the server fails, or the host cannot apply the edit. -/
def renamingTrouble? (s : Session) (place : Nat) : Except Failure Value → Option Failure
  | .error why => some why
  | .ok .null => none
  | .ok _ => (s.buffer place).options.applyEdit.bind (· s.trace.length)

/-- What goes wrong with signature help that the server was asked for: the server fails, or what
it has answered cannot be shown. -/
def helpTrouble? (s : Session) (place : Nat) (answer : Except Failure Value) : Option Failure :=
  failureOf ((readHelp answer).bind (SignatureHelp.display · (s.buffer place).options.render))

/-- What goes wrong with an answer, where the host is told about it, and in which buffer. -/
def answerTrouble? (s : Session) (answer : Except Failure Value) :
    AfterAnswer → Option (Nat × Failure)
  | .prepareRename place _ _ => (preparingTrouble? answer).map (place, ·)
  | .rename place => (s.renamingTrouble? place answer).map (place, ·)
  | .showHelp place _ true => (s.helpTrouble? place answer).map (place, ·)
  | _ => none

end Session

namespace Pool

/-- A notice about a buffer that could not be sent. -/
def lost? (p : Pool) : Move → Option (Nat × Failure)
  | .sent who _ (.error why) =>
    match p.pause? who with
    | some (.notice _ (.opened place)) | some (.notice _ (.changed place _)) => some (place, why)
    | _ => none
  | _ => none

/-- What goes wrong in a move with a renaming, or with signature help that follows what is
typed, and in which buffer. -/
def trouble? (p : Pool) : Move → Option (Nat × Failure)
  | .begin who =>
    match p.tasks[who]? with
    | some (.created operation) => p.session.beginTrouble? operation
    | _ => none
  | .sent who _ _ =>
    match p.pause? who with
    | some (.notice _ (.changed place next)) =>
      (next.trouble? (p.session.buffer place) p.session.capabilities).map (place, ·)
    | _ => none
  | .answer who answer =>
    match p.pause? who with
    | some (.answer _ _ next) => p.session.answerTrouble? answer next
    | _ => none
  | _ => none

/-- What hosts have to be told about a move: what could not be sent, and what has gone wrong
otherwise. -/
def due (p : Pool) (m : Move) : List (Nat × Failure) :=
  (p.lost? m).toList.filter (fun f =>
    p.session.hears f.1 && (p.session.buffer f.1).options.reportsSending) ++
  (p.trouble? m).toList.filter (p.session.hears ·.1)

end Pool

namespace Session
section
variable (s : Session) (place : Nat)

/-! ## What tells hosts about no failure -/

theorem complaints_record {e : Event} (h : e.complaint? = none) :
    (s.record e).complaints = s.complaints := by
  simp [complaints, record, h]

@[simp] theorem complaints_modify (f : Buffer → Buffer) :
    (s.modify place f).complaints = s.complaints := rfl

@[simp] theorem complaints_finish (r : Result) : (s.finish r).1.complaints = s.complaints := rfl

@[simp] theorem complaints_stop (why : Failure) : (s.stop why).1.complaints = s.complaints := rfl

@[simp] theorem complaints_askWithin (seconds : Double) (request : Request) (next : AfterAnswer) :
    (s.askWithin seconds request next).1.complaints = s.complaints :=
  s.complaints_record rfl

@[simp] theorem complaints_ask (request : Request) (next : AfterAnswer) :
    (s.ask request next).1.complaints = s.complaints :=
  s.complaints_record rfl

@[simp] theorem complaints_notify (n : Notice) (next : AfterNotice) :
    (s.notify n next).1.complaints = s.complaints :=
  s.complaints_record rfl

theorem complaints_callHost {f : Callback} {call : HostCall}
    (h : (Event.called place call).complaint? = none) :
    (s.callHost place f call).1.complaints = s.complaints := by
  cases f with
  | none => rfl
  | some fails => exact s.complaints_record h

theorem complaints_inBuffer (name : String) {act : Nat → Advance}
    (h : ∀ place, (act place).1.complaints = s.complaints) :
    (s.inBuffer name act).1.complaints = s.complaints := by
  unfold inBuffer
  split
  · rfl
  · exact h _

theorem complaints_showFindings (push : Push) :
    (s.showFindings place push).complaints = s.complaints := by
  unfold showFindings
  dsimp only
  split
  · split
    · exact s.complaints_callHost place rfl
    · rfl
  · rfl

end

/-! ## What is told about what goes wrong -/

/-- Hosts are told about no failure. -/
structure Quiet (s t : Session) : Prop where
  complaints : t.complaints = s.complaints
  options : ∀ place, (t.buffer place).options = (s.buffer place).options

/-- What comes of a change and of signature help that follows it, or of a renaming. It waits for
more of the same, or brings a result; or something goes wrong, signature help is hidden, and the
host is told in the end. -/
inductive Meets (s : Session) (place : Nat) (typing : Bool) : Option Failure → Advance → Prop where
  | goesOn {t : Session} {pause : Pause} (quiet : Quiet s t)
      (guarded : pause.isGuarded place typing = true) : Meets s place typing none (t, .paused pause)
  | brings {t : Session} {r : Result} (quiet : Quiet s t) :
    Meets s place typing none (t, .finished (.ok r))
  | reports {t : Session} {why : Failure} {r : Result} (quiet : Quiet s t)
      (hidden : typing = true → (t.buffer place).tooltip = none) :
    Meets s place typing (some why) (finishAs (t.reportFailure place why) r)

section
variable {s t : Session} {place : Nat} {typing : Bool} {trouble : Option Failure} {a : Advance}

theorem Quiet.refl (s : Session) : Quiet s s := ⟨rfl, fun _ => rfl⟩

theorem Quiet.trans {u : Session} (h : Quiet s t) (h' : Quiet t u) : Quiet s u :=
  ⟨h'.complaints.trans h.complaints, fun place => (h'.options place).trans (h.options place)⟩

theorem Local.quiet (h : Local s t) (hc : t.complaints = s.complaints) : Quiet s t := by
  refine ⟨hc, fun place => ?_⟩
  obtain ⟨buffers, events, rfl, hl, -⟩ := h
  have hlabel : (Session.buffer { s with buffers, trace := s.trace ++ events } place).label =
      (s.buffer place).label := buffer_eq_of_map hl place
  have hoptions := congrArg Buffer.options hlabel
  exact hoptions

theorem Meets.trans (h : Quiet s t) (h' : Meets t place typing trouble a) :
    Meets s place typing trouble a := by
  cases h' with
  | goesOn quiet guarded => exact .goesOn (h.trans quiet) guarded
  | brings quiet => exact .brings (h.trans quiet)
  | reports quiet hidden => exact .reports (h.trans quiet) hidden

theorem complaints_reportFailure (s : Session) (place : Nat) (why : Failure) :
    (s.reportFailure place why).1.complaints =
      s.complaints ++ if s.hears place then [(place, why)] else [] := by
  unfold reportFailure callHost hears
  cases (s.buffer place).options.reportFailure with
  | none => simp
  | some fails => simp [complaints, record, Event.complaint?]

/-- The host is told once about what has gone wrong, and about nothing else. -/
theorem Meets.complaints (h : Meets s place typing trouble a) :
    a.1.complaints = s.complaints ++ (trouble.map (place, ·)).toList.filter (s.hears ·.1) := by
  cases h with
  | goesOn quiet guarded => simpa using quiet.complaints
  | brings quiet => simpa using quiet.complaints
  | @reports t why r quiet hidden =>
    have hhears : t.hears place = s.hears place := by
      rw [hears, hears, quiet.options]
    rw [finishAs, complaints_reportFailure, quiet.complaints, hhears]
    cases h : s.hears place <;> simp [h]

theorem tooltip_hideTooltip (s : Session) (place : Nat) :
    ((s.hideTooltip place).buffer place).tooltip = none := by
  by_cases hp : place < s.buffers.length
  · rw [hideTooltip, buffer_modify_self _ _ hp]
  · have hnone : (s.hideTooltip place).buffers[place]? = none := by
      simpa [hideTooltip, modify] using hp
    rw [buffer, List.getD_eq_getElem?_getD, hnone]
    rfl

theorem quiet_modify (s : Session) (place : Nat) {f : Buffer → Buffer}
    (hf : ∀ b, (f b).label = b.label) : Quiet s (s.modify place f) :=
  (s.local_modify place f hf).quiet rfl

theorem quiet_hideTooltip (s : Session) (place : Nat) : Quiet s (s.hideTooltip place) :=
  s.quiet_modify place fun _ => rfl

theorem quiet_record (s : Session) {e : Event} (h : e.isMessage = true) : Quiet s (s.record e) := by
  refine ⟨s.complaints_record ?_, fun _ => rfl⟩
  cases e <;> first | rfl | cases h

/-! ## Changes, and signature help that follows them -/

theorem meets_helpFailed (s : Session) (place : Nat) (why : Failure) :
    Meets s place true (some why) (s.helpFailed place true why) :=
  .reports (s.quiet_hideTooltip place) fun _ => s.tooltip_hideTooltip place

theorem meets_putHelp (s : Session) (place : Nat) (offset : Int) (help : Option SignatureHelp) :
    Meets s place true (failureOf (SignatureHelp.display help (s.buffer place).options.render))
      (s.putHelp place offset true help) := by
  unfold putHelp
  dsimp only
  split <;> rename_i hd <;> rw [hd]
  · exact s.meets_helpFailed place _
  · exact .brings (s.quiet_hideTooltip place)
  · refine .brings (s.quiet_modify place ?_)
    exact fun _ => rfl

theorem meets_askHelp (s : Session) (place : Nat) (offset : Int) (character : Option String) :
    Meets s place true (failureOf ((s.buffer place).text.positionOf offset))
      (s.askHelp place offset character true) := by
  unfold askHelp
  split <;> rename_i hp <;> rw [hp]
  · exact s.meets_helpFailed place _
  · split
    · exact .goesOn (s.quiet_record rfl) (by simp [Pause.isGuarded])
    · exact s.meets_putHelp place offset none

theorem meets_followTyping (s : Session) (place : Nat) (text : Document) (splices : List Splice)
    (cursor : Option Int) :
    Meets s place true ((s.buffer place).typingTrouble? s.capabilities text splices cursor)
      (s.followTyping place text splices cursor) := by
  unfold followTyping Buffer.typingTrouble?
  dsimp only
  split
  · exact .brings (Quiet.refl s)
  · cases typedTrigger (ServerCapabilities.signatureCharacters s.capabilities) text splices with
    | some t => exact s.meets_askHelp place _ _
    | none =>
      dsimp only
      split
      · exact .brings (Quiet.refl s)
      · cases insideCall text (cursorAfter text splices cursor) (s.buffer place).options.linesBack with
        | error why => exact s.meets_helpFailed place why
        | ok inside =>
          cases inside with
          | true => exact .brings (Quiet.refl s)
          | false => exact .brings (s.quiet_hideTooltip place)

theorem meets_afterChange (s : Session) (place : Nat) (next : AfterChange) :
    Meets s place true (next.trouble? (s.buffer place) s.capabilities) (s.afterChange place next) := by
  cases next with
  | finish => exact .brings (Quiet.refl s)
  | followTyping text splices cursor => exact s.meets_followTyping place text splices cursor

theorem meets_sendNow (s : Session) (place : Nat) (events : List ChangeEvent) (next : AfterChange) :
    Meets s place true none (s.sendNow place events next) := by
  refine .goesOn (Quiet.trans (s.quiet_modify place ?_) (quiet_record _ rfl))
    (by simp [Pause.isGuarded])
  exact fun _ => rfl

theorem meets_send (s : Session) (who place : Nat) (events : List ChangeEvent) (next : AfterChange) :
    Meets s place true
      (if s.isReady && (s.buffer place).isOpen then none
        else next.trouble? (s.buffer place) s.capabilities)
      (s.send who place events next) := by
  have hentered : Quiet s (s.modify place fun b => { b with turns := b.turns.enter who }) :=
    s.quiet_modify place fun _ => rfl
  unfold send
  dsimp only
  by_cases h : (s.isReady && (s.buffer place).isOpen) = true
  · rw [if_pos h, if_neg (by simpa using h)]
    split
    · exact (meets_sendNow _ place events next).trans hentered
    · exact .goesOn hentered (by simp [Pause.isGuarded])
  · rw [if_neg h, if_pos (by simpa [imp_iff_not_or] using h)]
    exact s.meets_afterChange place next

/-- A change that can be told meets what goes wrong with signature help, and nothing else. -/
theorem meets_update {text : Document} {splices : Option (List Splice)} (who : Nat)
    (cursor : Option Int) (hp : place < s.buffers.length)
    (tellable : failureOf (eventsOf (s.buffer place).options.incremental (s.buffer place).text text
      splices) = none) :
    Meets s place true (s.updateTrouble? place text splices cursor)
      (s.update who place text splices cursor) := by
  unfold update updateTrouble?
  dsimp only
  by_cases ht : text = (s.buffer place).text
  · rw [if_pos ht, if_pos (by simp [ht])]
    exact .brings (Quiet.refl s)
  · rw [if_neg ht, tellable]
    unfold synchronize
    dsimp only
    cases he : eventsOf (s.buffer place).options.incremental (s.buffer place).text text splices with
    | error why =>
      rw [he] at tellable
      cases tellable
    | ok events =>
      have hgiven : Quiet s (s.modify place fun b => { b with text := text }) :=
        s.quiet_modify place fun _ => rfl
      have hsend := meets_send (s.modify place fun b => { b with text := text }) who place events
        (.followTyping text (splices.getD []) cursor)
      rw [buffer_modify_self _ _ hp] at hsend
      simp only [ht, decide_false, Bool.false_or, Option.isSome_none, Bool.or_false]
      exact hsend.trans hgiven

theorem meets_shownHelpAnswered (s : Session) (place : Nat) (offset : Int)
    (answer : Except Failure Value) :
    Meets s place true (s.helpTrouble? place answer)
      (s.shownHelpAnswered place offset true answer) := by
  unfold shownHelpAnswered helpTrouble?
  cases readHelp answer with
  | error why => exact s.meets_helpFailed place why
  | ok help => exact s.meets_putHelp place offset help

/-! ## Renamings -/

theorem meets_renameFailed (s : Session) (place : Nat) (why : Failure) :
    Meets s place false (some why) (s.renameFailed place why) :=
  .reports (Quiet.refl s) (by simp)

theorem meets_sendRename (s : Session) (place : Nat) (position : Position) (newName : String) :
    Meets s place false none (s.sendRename place position newName) :=
  .goesOn (s.quiet_record rfl) (by simp [Pause.isGuarded])

theorem meets_askRename (s : Session) (place : Nat) (position : Position) (newName : String) :
    Meets s place false none (s.askRename place position newName) := by
  unfold askRename
  split
  · split
    · exact .goesOn (s.quiet_record rfl) (by simp [Pause.isGuarded])
    · exact s.meets_sendRename place position newName
  · exact .brings (Quiet.refl s)

theorem meets_renamePrepared (s : Session) (place : Nat) (position : Position) (newName : String)
    (answer : Except Failure Value) :
    Meets s place false (preparingTrouble? answer)
      (s.renamePrepared place position newName answer) := by
  cases answer with
  | error why => exact s.meets_renameFailed place why
  | ok v =>
    cases v with
    | null => exact s.meets_renameFailed place .nothingToRename
    | _ => exact s.meets_sendRename place position newName

/-- The host applies an edit, or is told that it could not. -/
theorem meets_applied (s : Session) (place : Nat) (edit : Value) :
    Meets s place false ((s.buffer place).options.applyEdit.bind (· s.trace.length))
      (match s.callHost place (s.buffer place).options.applyEdit (.applyEdit edit) with
      | (after, .ok ()) => after.finish (.edit (some edit))
      | (after, .error why) => after.renameFailed place why) := by
  have hquiet : Quiet s (s.callHost place (s.buffer place).options.applyEdit (.applyEdit edit)).1 :=
    (s.mild_callHost place _ _).local.quiet (s.complaints_callHost place rfl)
  cases hf : (s.buffer place).options.applyEdit with
  | none => exact .brings (Quiet.refl s)
  | some fails =>
    rw [hf] at hquiet
    simp only [Option.bind_some, callHost] at hquiet ⊢
    cases fails s.trace.length with
    | none => exact .brings hquiet
    | some why => exact (meets_renameFailed _ place why).trans hquiet

theorem meets_renameAnswered (s : Session) (place : Nat) (answer : Except Failure Value) :
    Meets s place false (s.renamingTrouble? place answer) (s.renameAnswered place answer) := by
  cases answer with
  | error why => exact s.meets_renameFailed place why
  | ok v =>
    cases v with
    | null => exact .brings (Quiet.refl s)
    | _ => exact s.meets_applied place _

/-! ## Everything else -/

theorem complaints_update (hp : place < s.buffers.length) (who : Nat) (text : Document)
    (splices : Option (List Splice)) (cursor : Option Int) :
    (s.update who place text splices cursor).1.complaints = s.complaints ++
      ((s.updateTrouble? place text splices cursor).map (place, ·)).toList.filter (s.hears ·.1) := by
  cases he : failureOf (eventsOf (s.buffer place).options.incremental (s.buffer place).text text
      splices) with
  | none => exact (meets_update who cursor hp he).complaints
  | some why =>
    have htrouble : s.updateTrouble? place text splices cursor = none := by
      simp [updateTrouble?, he]
    rw [htrouble]
    unfold update synchronize
    split
    · simp
    · dsimp only
      split
      · simp
      · rename_i events h
        rw [h] at he
        cases he

theorem complaints_close (s : Session) : s.close.complaints = s.complaints := by
  unfold close
  split
  · rfl
  · exact complaints_record _ rfl

theorem complaints_onBuffer (name : String) {act : Nat → Session}
    (h : ∀ place, (act place).complaints = s.complaints) :
    (s.onBuffer name act).1.complaints = s.complaints := by
  unfold onBuffer
  split
  · rfl
  · exact h _

theorem complaints_attach (s : Session) (place : Nat) :
    (s.attach place).complaints = s.complaints := by
  unfold attach
  split <;> rfl

theorem complaints_detach (s : Session) (place : Nat) :
    (s.detach place).complaints = s.complaints := by
  unfold detach
  split
  · rfl
  · dsimp only
    split
    · exact complaints_close _
    · rfl

/-- Commands tell hosts about no failure, whoever gives them. -/
theorem complaints_commands : CommandInvariant fun s t => t.complaints = s.complaints where
  refl _ := rfl
  trans h h' := h'.trans h
  apply s c := by
    cases c with
    | create name uri language options => exact complaints_attach _ _
    | attach name => exact complaints_onBuffer name s.complaints_attach
    | detach name => exact complaints_onBuffer name s.complaints_detach
    | close => exact s.complaints_close
    | dispose name =>
      simp only [apply, dispose]
      split <;> rfl
    | setFeatures name changes => exact complaints_onBuffer name fun _ => rfl
    | hideTooltip name => exact complaints_onBuffer name fun _ => rfl
    | note what => exact s.complaints_record rfl
    | listen | publish | fail => rfl
  showFindings := complaints_showFindings
  heard s name push := s.complaints_record rfl

theorem complaints_afterHandshake (s : Session) (next : AfterHandshake)
    (outcome : Except Failure Unit) :
    (s.afterHandshake next outcome).1.complaints = s.complaints := by
  cases outcome with
  | error why => rfl
  | ok u =>
    cases next with
    | finish => rfl
    | openBuffer place text => exact complaints_notify _ _ _

theorem complaints_handshake (s : Session) (next : AfterHandshake) :
    (s.handshake next).1.complaints = s.complaints := by
  have hjoined : s.joined.1.complaints = s.complaints := by
    unfold joined
    split <;> rfl
  unfold handshake
  split
  · rfl
  · dsimp only
    split
    · exact (complaints_afterHandshake _ next _).trans hjoined
    · exact hjoined

/-- A change after which nothing is to be done meets nothing. -/
theorem complaints_send (s : Session) (who place : Nat) (events : List ChangeEvent) :
    (s.send who place events .finish).1.complaints = s.complaints := by
  have htrouble : (if s.isReady && (s.buffer place).isOpen then none
      else AfterChange.trouble? (s.buffer place) s.capabilities .finish) = none := ite_self none
  have hsend := (s.meets_send who place events .finish).complaints
  rw [htrouble] at hsend
  simpa using hsend

theorem complaints_synchronize (s : Session) (who place : Nat) (text : Document)
    (splices : Option (List Splice)) :
    (s.synchronize who place text splices .finish).1.complaints = s.complaints := by
  unfold synchronize
  dsimp only
  split
  · rfl
  · exact complaints_send _ who place _

/-- A host that asked for signature help gets the failure itself. -/
theorem complaints_putHelp (s : Session) (place : Nat) (offset : Int)
    (help : Option SignatureHelp) :
    (s.putHelp place offset false help).1.complaints = s.complaints := by
  unfold putHelp
  dsimp only
  split <;> rfl

theorem complaints_askHelp (s : Session) (place : Nat) (offset : Int) (character : Option String) :
    (s.askHelp place offset character false).1.complaints = s.complaints := by
  unfold askHelp
  split
  · rfl
  · split
    · exact s.complaints_ask _ _
    · exact s.complaints_putHelp place offset none

theorem complaints_described (s : Session) (place : Nat) (item : CompletionItem)
    (ask : Option (Except Failure (Option CompletionItem))) :
    (s.described place item ask).1.complaints = s.complaints := by
  unfold described
  split <;> rfl

/-- Most operations tell hosts about no failure when they begin. -/
theorem complaints_begin_of_ne {depth who : Nat} {operation : Operation}
    (h : s.begin depth who operation = some a)
    (other : ∀ name text splices cursor, operation ≠ .update name text splices cursor) :
    a.1.complaints = s.complaints := by
  cases operation with
  | update name text splices cursor => exact absurd rfl (other name text splices cursor)
  | perform c =>
    obtain ⟨b, hb, rfl⟩ := Option.map_eq_some_iff.mp h
    exact complaints_commands.perform hb
  | handshake => cases h; exact s.complaints_handshake _
  | openBuffer name text =>
    cases h; exact s.complaints_inBuffer name fun _ => s.complaints_handshake _
  | synchronize name text splices =>
    cases h; exact s.complaints_inBuffer name fun place => s.complaints_synchronize who place _ _
  | refresh name => cases h; exact s.complaints_inBuffer name fun place => s.complaints_send _ _ _
  | sendEvents name events =>
    cases h; exact s.complaints_inBuffer name fun place => s.complaints_send _ _ _
  | hover name position =>
    cases h; exact s.complaints_inBuffer name fun place => by unfold askHover; split <;> simp
  | complete name text offset explicit =>
    cases h
    refine s.complaints_inBuffer name fun place => ?_
    unfold askCompletion
    dsimp only
    repeat' split
    all_goals simp
  | accept name item start stop => cases h; exact s.complaints_inBuffer name fun place => rfl
  | describe name item =>
    cases h
    refine s.complaints_inBuffer name fun place => ?_
    unfold describe
    split
    · simp
    · exact s.complaints_described place item none
  | define name position =>
    cases h; exact s.complaints_inBuffer name fun place => by unfold askDefinition; split <;> simp
  | rename name position newName =>
    cases h
    refine s.complaints_inBuffer name fun place => ?_
    simpa using (s.meets_askRename place position newName).complaints
  | codeActions name range diagnostics =>
    cases h; exact s.complaints_inBuffer name fun place => by unfold askActions; split <;> simp
  | applyAction name edit =>
    cases h
    refine s.complaints_inBuffer name fun place => ?_
    unfold applyAction
    split
    · exact s.complaints_callHost place rfl
    · rfl
  | help name position character =>
    cases h; exact s.complaints_inBuffer name fun place => by unfold askSignatures; split <;> simp
  | showHelp name offset character =>
    cases h; exact s.complaints_inBuffer name fun place => s.complaints_askHelp place offset _
  | request method shape params seconds =>
    cases h
    unfold sendRequest
    split <;> simp
  | notify method shape params =>
    cases h
    unfold sendNotice
    split <;> simp
  | answer method params =>
    cases h
    split <;> rfl

/-- What an operation tells hosts when it begins. -/
theorem complaints_begin {depth who : Nat} {operation : Operation}
    (h : s.begin depth who operation = some a) :
    a.1.complaints =
      s.complaints ++ (s.beginTrouble? operation).toList.filter (s.hears ·.1) := by
  by_cases hu : ∃ name text splices cursor, operation = .update name text splices cursor
  · obtain ⟨name, text, splices, cursor, rfl⟩ := hu
    cases h
    simp only [inBuffer, beginTrouble?]
    cases hf : s.find? name with
    | none => simp
    | some place => exact complaints_update (find?_lt hf) who text splices cursor
  · have hsame := complaints_begin_of_ne h fun name text splices cursor ho =>
      hu ⟨name, text, splices, cursor, ho⟩
    have htrouble : s.beginTrouble? operation = none := by
      cases operation with
      | update name text splices cursor => exact absurd ⟨name, text, splices, cursor, rfl⟩ hu
      | _ => rfl
    rw [hsame, htrouble]
    simp

/-- What an operation tells hosts when it has its answer. -/
theorem complaints_answered (s : Session) (answer : Except Failure Value) (next : AfterAnswer) :
    (s.answered answer next).1.complaints =
      s.complaints ++ (s.answerTrouble? answer next).toList.filter (s.hears ·.1) := by
  have hsame {a : Advance} (h : a.1.complaints = s.complaints) :
      a.1.complaints = s.complaints ++ (none : Option (Nat × Failure)).toList.filter (s.hears ·.1) := by
    simpa using h
  cases next with
  | prepareRename place position newName =>
    exact (s.meets_renamePrepared place position newName answer).complaints
  | rename place => exact (s.meets_renameAnswered place answer).complaints
  | showHelp place offset whileTyping =>
    cases whileTyping with
    | true => exact (s.meets_shownHelpAnswered place offset answer).complaints
    | false =>
      refine hsame ?_
      simp only [answered, shownHelpAnswered]
      split
      · rfl
      · exact s.complaints_putHelp place offset _
  | handOn method => exact hsame rfl
  | describe place item => exact hsame (s.complaints_described place item _)
  | define place =>
    refine hsame ?_
    simp only [answered, definitionAnswered]
    split
    · rfl
    · rfl
    · exact s.complaints_callHost place rfl
  | hover place position =>
    refine hsame ?_
    simp only [answered, hoverAnswered]
    repeat' split
    all_goals rfl
  | complete place before offset =>
    refine hsame ?_
    simp only [answered, completionAnswered]
    split <;> rfl
  | codeActions =>
    refine hsame ?_
    simp only [answered, actionsAnswered]
    split <;> rfl
  | help =>
    refine hsame ?_
    simp only [answered, helpAnswered]
    split <;> rfl

/-! ## Notices -/

/-- The host of a buffer was told, if it wants to know, that something could not be sent. -/
def informed (s : Session) (place : Nat) : Except Failure Unit → Session
  | .ok () => s
  | .error why => s.reportSending place why

theorem buffers_informed (s : Session) (place : Nat) (outcome : Except Failure Unit) :
    (s.informed place outcome).buffers = s.buffers := by
  cases outcome with
  | ok u => rfl
  | error why =>
    unfold informed reportSending
    dsimp only
    split
    · unfold reportFailure callHost
      split <;> rfl
    · rfl

theorem capabilities_informed (s : Session) (place : Nat) (outcome : Except Failure Unit) :
    (s.informed place outcome).capabilities = s.capabilities := by
  cases outcome with
  | ok u => rfl
  | error why =>
    obtain ⟨buffers, events, heq, -, -⟩ := s.mild_reportSending place why
    rw [informed, heq]

theorem complaints_informed (s : Session) (place : Nat) (outcome : Except Failure Unit) :
    (s.informed place outcome).complaints = s.complaints ++
      ((failureOf outcome).map (place, ·)).toList.filter fun f =>
        s.hears f.1 && (s.buffer f.1).options.reportsSending := by
  cases outcome with
  | ok u => simp [informed, failureOf]
  | error why =>
    simp only [informed, failureOf, reportSending]
    split
    · rename_i hr
      rw [complaints_reportFailure]
      cases hh : s.hears place <;> simp [hh, hr]
    · rename_i hr
      simp [hr]

theorem trouble?_congr {b c : Buffer} (ho : c.options = b.options) (ht : c.text = b.text)
    (hs : c.tooltip = b.tooltip) (capabilities : Option ServerCapabilities) (next : AfterChange) :
    next.trouble? c capabilities = next.trouble? b capabilities := by
  cases next with
  | finish => rfl
  | followTyping text splices cursor =>
    simp only [AfterChange.trouble?, Buffer.typingTrouble?, ho, ht, hs]

/-- When a change was sent, or could not be sent, something may go wrong with signature help. -/
theorem meets_changeSent (s : Session) (place : Nat) (next : AfterChange)
    (outcome : Except Failure Unit) :
    Meets (s.informed place outcome) place true
      (next.trouble? (s.buffer place) s.capabilities) (s.changeSent place next outcome) := by
  let t := (s.informed place outcome).modify place fun b => { b with turns := b.turns.leave }
  have hquiet : Quiet (s.informed place outcome) t := quiet_modify _ place fun _ => rfl
  have hview {α : Type} (view : Buffer → α) (hv : ∀ b turns, view { b with turns } = view b) :
      view (t.buffer place) = view (s.buffer place) := by
    refine buffer_eq_of_map ?_ place
    rw [map_modify _ place _ view fun b => hv b _, buffers_informed]
  have htrouble : next.trouble? (t.buffer place) t.capabilities =
      next.trouble? (s.buffer place) s.capabilities := by
    rw [show t.capabilities = s.capabilities from s.capabilities_informed place outcome]
    exact trouble?_congr (hview (·.options) fun _ _ => rfl) (hview (·.text) fun _ _ => rfl)
      (hview (·.tooltip) fun _ _ => rfl) _ next
  have hsent : s.changeSent place next outcome = t.afterChange place next := by
    cases outcome <;> rfl
  rw [hsent, ← htrouble]
  exact (t.meets_afterChange place next).trans hquiet

end
end Session

/-! ## Moves and runs -/

namespace Pool
open Session

/-- What hosts have to be told about a step. -/
def Step.due (x : Step) : List (Nat × Failure) := x.before.due x.move

section
variable {depth : Nat} {p q : Pool} {m : Move} {steps : List Step}

theorem complaints_deliver (s : Session) (isDelivered : Bool) (n : Notice) :
    (deliver s isDelivered n).complaints = s.complaints := by
  cases isDelivered with
  | false => rfl
  | true => exact s.complaints_record rfl

/-- What hosts are told when a notice was sent, or could not be sent. -/
theorem complaints_sent {who : Nat} {n : Notice} {next : AfterNotice}
    (paused : p.pause? who = some (.notice n next)) (isDelivered : Bool)
    (outcome : Except Failure Unit) :
    ((deliver p.session isDelivered n).noticeSent outcome next).1.complaints =
      p.session.complaints ++ p.due (.sent who isDelivered outcome) := by
  have hbuffer (place : Nat) :
      (deliver p.session isDelivered n).buffer place = p.session.buffer place := by
    cases isDelivered <;> rfl
  have hcapabilities :
      (deliver p.session isDelivered n).capabilities = p.session.capabilities := by
    cases isDelivered <;> rfl
  have hinformed (place : Nat) :
      ((deliver p.session isDelivered n).informed place outcome).complaints =
        p.session.complaints ++ ((failureOf outcome).map (place, ·)).toList.filter fun f =>
          p.session.hears f.1 && (p.session.buffer f.1).options.reportsSending := by
    rw [complaints_informed, complaints_deliver]
    simp only [hears, hbuffer]
  cases next with
  | finish =>
    have hdue : p.due (.sent who isDelivered outcome) = [] := by
      cases outcome <;> simp [due, lost?, trouble?, paused]
    rw [hdue, List.append_nil]
    exact complaints_deliver _ _ _
  | opened place =>
    have hdue : p.due (.sent who isDelivered outcome) =
        ((failureOf outcome).map (place, ·)).toList.filter fun f =>
          p.session.hears f.1 && (p.session.buffer f.1).options.reportsSending := by
      cases outcome <;> simp [due, lost?, trouble?, paused, failureOf]
    rw [hdue, ← hinformed]
    cases outcome <;> rfl
  | changed place next =>
    have hdue : p.due (.sent who isDelivered outcome) =
        (((failureOf outcome).map (place, ·)).toList.filter fun f =>
          p.session.hears f.1 && (p.session.buffer f.1).options.reportsSending) ++
        ((next.trouble? (p.session.buffer place) p.session.capabilities).map
          (place, ·)).toList.filter (p.session.hears ·.1) := by
      cases outcome <;> simp [due, lost?, trouble?, paused, failureOf]
    have hmeets := (meets_changeSent (deliver p.session isDelivered n) place next outcome).complaints
    have hhears (f : Nat × Failure) :
        ((deliver p.session isDelivered n).informed place outcome).hears f.1 =
          p.session.hears f.1 := by
      rw [hears, hears, buffer, buffers_informed]
      exact congrArg (fun b => b.options.reportFailure.isSome) (hbuffer f.1)
    simp only [hbuffer, hcapabilities, hhears, hinformed] at hmeets
    rw [hdue, ← List.append_assoc]
    exact hmeets

theorem complaints_exchanges (s : Session) (number : Nat) :
    (s.beginExchange number).complaints = s.complaints ∧
      ∀ answer, (s.exchangeAnswered number answer).complaints = s.complaints := by
  have hfailed (t : Session) (why : Failure) :
      (t.exchangeFailed number why).complaints = t.complaints := by
    unfold exchangeFailed
    dsimp only
    split <;> rfl
  constructor
  · unfold beginExchange
    dsimp only
    split
    · exact hfailed _ _
    · exact complaints_record _ rfl
  · intro answer
    unfold exchangeAnswered
    dsimp only
    split
    · exact hfailed _ _
    · split
      · rfl
      · exact complaints_record _ rfl

/-- In a move hosts are told about what could not be sent and about what has gone wrong
otherwise, once each, and about nothing else. -/
theorem complaints_move (possible : p.move? depth m = some q) :
    q.session.complaints = p.session.complaints ++ p.due m := by
  have hsame {t : Session} {m : Move} (h : t.complaints = p.session.complaints)
      (hdue : p.due m = []) : t.complaints = p.session.complaints ++ p.due m := by
    rw [h, hdue, List.append_nil]
  cases moves_of_possible possible with
  | submit operation => exact hsame rfl rfl
  | @begin who operation a created begins =>
    have hdue : p.due (.begin who) =
        (p.session.beginTrouble? operation).toList.filter (p.session.hears ·.1) := by
      simp [due, lost?, trouble?, created]
    rw [hdue]
    exact complaints_begin begins
  | command performs => exact hsame (complaints_commands.perform performs) rfl
  | beginExchange scheduled => exact hsame (complaints_exchanges _ _).1 rfl
  | answerExchange answer requested => exact hsame ((complaints_exchanges _ _).2 answer) rfl
  | announceExchange isDelivered outcome announcing =>
    exact hsame (complaints_deliver _ isDelivered _) rfl
  | wake paused ended => exact hsame (complaints_afterHandshake _ _ _) rfl
  | @grant who place next paused holds =>
    have hsent : (p.session.sendNow place next.events next.next).1.complaints =
        p.session.complaints := by
      simpa using (p.session.meets_sendNow place next.events next.next).complaints
    exact hsame hsent rfl
  | sent isDelivered outcome paused => exact complaints_sent paused isDelivered outcome
  | @answer who request seconds next answer paused =>
    have hdue : p.due (.answer who answer) =
        (p.session.answerTrouble? answer next).toList.filter (p.session.hears ·.1) := by
      simp [due, lost?, trouble?, paused]
    rw [hdue]
    exact p.session.complaints_answered answer next

/-- In a run hosts are told about each failure once. -/
theorem complaints_run (run : Run depth p steps q) :
    q.session.complaints = p.session.complaints ++ steps.flatMap Step.due := by
  induction run with
  | start => simp
  | next run possible ih => simp [complaints_move possible, ih, Step.due]

end
end Pool
end EditorLink
