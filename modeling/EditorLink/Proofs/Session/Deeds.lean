import EditorLink.Proofs.Session.Channel
import EditorLink.Proofs.Session.Frame

/-!
# What operations do for a document

Each operation that starts or goes on does one deed for the document at a place, most
often none at all: it is about another document, or it only asks, shows and reports.
-/
namespace EditorLink

/-- What a pause leaves to do for a document. -/
def Pause.errand? (place : Nat) : Pause → Option Errand
  | .exchange _ (.openBuffer other text) => if other = place then some (.await text) else none
  | .turn other next => if other = place then some (.queue next.events) else none
  | .notice n (.opened other) => if other = place then some (.opening n) else none
  | .notice n (.changed other _) => if other = place then some (.changing n) else none
  | _ => none

/-- What an operation has still to do for a document. -/
def Progress.errand? (place : Nat) : Progress → Option Errand
  | .paused pause => pause.errand? place
  | .finished _ => none

namespace Session

/-- The channel of a buffer, where the errands of all operations are known. -/
def channel (s : Session) (place : Nat) (errand : Nat → Option Errand) : Channel :=
  ⟨(s.buffer place).version, (s.buffer place).text, (s.buffer place).turns, errand⟩

/-- What comes of sending events along with a text. -/
def sendDeed (s : Session) (who place : Nat) (text : Document) (events : List ChangeEvent) : Deed :=
  if s.isReady && (s.buffer place).isOpen then .call who (s.buffer place).uri text events
  else .keep text

/-- What comes of taking over a text. -/
def synchronizeDeed (s : Session) (who place : Nat) (text : Document)
    (splices : Option (List Splice)) : Deed :=
  match eventsOf (s.buffer place).options.incremental (s.buffer place).text text splices with
  | .error _ => .keep text
  | .ok events => s.sendDeed who place text events

/-- What comes of opening a document, depending on how the handshake ended, if it did. -/
def openDeed (s : Session) (who place : Nat) (text : Document) :
    Option (Except Failure Unit) → Deed
  | none => .await who text
  | some (.error _) => .giveUp who
  | some (.ok ()) => .tell who (s.buffer place).uri (s.buffer place).language text

/-- How the exchange ended that further callers join. -/
def joinedOutcome (s : Session) : Option (Except Failure Unit) :=
  (s.joined.1.exchanges[s.joined.2]?).bind Exchange.outcome?

/-- What an operation does for a document when it starts. -/
def beginDeed (s : Session) (who place : Nat) : Operation → Deed
  | .openBuffer name text =>
    if s.find? name = some place then
      if s.phase = .closed then .giveUp who else s.openDeed who place text s.joinedOutcome
    else .nothing
  | .update name text splices _ =>
    if s.find? name = some place ∧ text ≠ (s.buffer place).text then
      s.synchronizeDeed who place text splices
    else .nothing
  | .synchronize name text splices =>
    if s.find? name = some place then s.synchronizeDeed who place text splices else .nothing
  | .refresh name =>
    if s.find? name = some place then
      s.sendDeed who place (s.buffer place).text [.whole (s.buffer place).text.text]
    else .nothing
  | .sendEvents name events =>
    if s.find? name = some place then s.sendDeed who place (s.buffer place).text events
    else .nothing
  | _ => .nothing

end Session

namespace Pool

/-- What each operation has still to do for a document. -/
def errand (p : Pool) (place who : Nat) : Option Errand := (p.pause? who).bind (Pause.errand? place)

/-- The channel of a buffer. -/
def channel (p : Pool) (place : Nat) : Channel := p.session.channel place (p.errand place)

/-- What a move does for a document. -/
def deed (p : Pool) (place : Nat) : Move → Deed
  | .begin who =>
    match p.tasks[who]? with
    | some (.created operation) => p.session.beginDeed who place operation
    | _ => .nothing
  | .wake who =>
    match p.pause? who with
    | some (.exchange number (.openBuffer other text)) =>
      if other = place then
        p.session.openDeed who place text ((p.session.exchanges[number]?).bind Exchange.outcome?)
      else .nothing
    | _ => .nothing
  | .grant who =>
    match p.pause? who with
    | some (.turn other next) =>
      if other = place then .grant who (p.session.buffer place).uri next.events else .nothing
    | _ => .nothing
  | .sent who isDelivered _ =>
    match p.pause? who with
    | some (.notice n (.opened other)) =>
      if other = place then .told who n isDelivered else .nothing
    | some (.notice n (.changed other _)) =>
      if other = place then .sent who n isDelivered else .nothing
    | _ => .nothing
  | _ => .nothing

end Pool

namespace Session

/-- The document at a place and the queue for it are as they were. -/
def Keeps (place : Nat) (s s' : Session) : Prop :=
  ∀ errand, s'.channel place errand = s.channel place errand

/-- An operation has gone on without touching the document at a place. -/
structure Elsewhere (place : Nat) (s : Session) (a : Advance) : Prop where
  keeps : Keeps place s a.1
  progress : a.2.errand? place = none

/-- Where an operation has gone on, the document at a place has seen a possible deed. -/
structure Acts (s : Session) (place who : Nat) (errand : Nat → Option Errand) (a : Advance)
    (d : Deed) : Prop where
  result : a.1.channel place (Function.update errand who (a.2.errand? place)) =
    (s.channel place errand).apply d
  allowed : (s.channel place errand).Allows d
  present : a.2.errand? place ≠ none → place < s.buffers.length

section Channels
variable {s t u : Session} {place : Nat}

theorem Keeps.refl (place : Nat) (s : Session) : Keeps place s s := fun _ => rfl

theorem Keeps.trans (h : Keeps place s t) (h' : Keeps place t u) : Keeps place s u :=
  fun errand => (h' errand).trans (h errand)

theorem keeps_of_bare (h : (t.buffer place).bare = (s.buffer place).bare) : Keeps place s t := by
  have hv : (t.buffer place).bare.version = (s.buffer place).bare.version :=
    congrArg Buffer.version h
  have ht : (t.buffer place).bare.text = (s.buffer place).bare.text := congrArg Buffer.text h
  have hq : (t.buffer place).bare.turns = (s.buffer place).bare.turns := congrArg Buffer.turns h
  exact fun errand => Channel.ext hv ht hq rfl

/-- What is the same of all buffers is the same of each. -/
theorem buffer_eq_of_map {α : Type} {view : Buffer → α}
    (h : t.buffers.map view = s.buffers.map view) (place : Nat) :
    view (t.buffer place) = view (s.buffer place) := by
  have hi := congrArg (fun l => l[place]?) h
  simp only [List.getElem?_map] at hi
  simp only [buffer, List.getD_eq_getElem?_getD]
  cases ht : t.buffers[place]? <;> cases hs : s.buffers[place]? <;> simp_all

theorem Mild.keeps (h : Mild s t) (place : Nat) : Keeps place s t := by
  obtain ⟨buffers, events, rfl, hb, -⟩ := h
  exact keeps_of_bare (buffer_eq_of_map (s := s) hb place)

theorem Local.length_buffers (h : Local s t) : t.buffers.length = s.buffers.length := by
  obtain ⟨buffers, events, rfl, hb, -⟩ := h
  have hl := congrArg List.length hb
  simpa using hl

theorem Aside.elsewhere {a : Advance} (h : Aside s a) (place : Nat) : Elsewhere place s a := by
  refine ⟨h.mild.keeps place, ?_⟩
  have hp := h.progress
  cases ha : a.2 with
  | finished outcome => rfl
  | paused pause =>
    rw [ha] at hp
    cases pause with
    | answer request seconds next => rfl
    | _ => cases hp

theorem Elsewhere.trans {a : Advance} (h : Keeps place s t) (h' : Elsewhere place t a) :
    Elsewhere place s a :=
  ⟨h.trans h'.keeps, h'.progress⟩

/-- Where an operation had nothing to do for a document and did nothing, nothing happens. -/
theorem Elsewhere.acts {who : Nat} {a : Advance} (h : Elsewhere place s a)
    {errand : Nat → Option Errand} (he : errand who = none) :
    Acts s place who errand a .nothing where
  result := by rw [h.progress, ← he, Function.update_eq_self, h.keeps]; rfl
  allowed := trivial
  present hn := absurd h.progress hn

theorem buffer_modify_self (s : Session) (f : Buffer → Buffer) (hp : place < s.buffers.length) :
    (s.modify place f).buffer place = f (s.buffer place) := by
  simp [modify, buffer, hp]

theorem buffer_modify_ne (s : Session) {other : Nat} (f : Buffer → Buffer) (h : other ≠ place) :
    (s.modify other f).buffer place = s.buffer place := by
  simp [modify, buffer, h]

theorem keeps_modify_ne (s : Session) {other : Nat} (f : Buffer → Buffer) (h : other ≠ place) :
    Keeps place s (s.modify other f) := fun errand => by
  simp only [Session.channel, s.buffer_modify_ne f h]

end Channels

/-! ## Other documents -/

section Others
variable (s : Session) (who : Nat) {place other : Nat}

theorem elsewhere_sendNow (h : other ≠ place) (events : List ChangeEvent) (next : AfterChange) :
    Elsewhere place s (s.sendNow other events next) := by
  refine ⟨s.keeps_modify_ne _ h, ?_⟩
  simp [sendNow, notify, Progress.errand?, Pause.errand?, h]

theorem elsewhere_send (h : other ≠ place) (events : List ChangeEvent) (next : AfterChange) :
    Elsewhere place s (s.send who other events next) := by
  unfold send
  dsimp only
  split
  · exact (s.aside_afterChange other next).elsewhere place
  · split
    · exact Elsewhere.trans (s.keeps_modify_ne _ h) (elsewhere_sendNow _ h _ _)
    · exact ⟨s.keeps_modify_ne _ h, by simp [Progress.errand?, Pause.errand?, h]⟩

theorem elsewhere_synchronize (h : other ≠ place) (text : Document)
    (splices : Option (List Splice)) (next : AfterChange) :
    Elsewhere place s (s.synchronize who other text splices next) := by
  unfold synchronize
  dsimp only
  split
  · exact Elsewhere.trans (s.keeps_modify_ne _ h) ((aside_stop _ _).elsewhere place)
  · exact Elsewhere.trans (s.keeps_modify_ne _ h) (elsewhere_send _ who h _ _)

theorem elsewhere_update (h : other ≠ place) (text : Document) (splices : Option (List Splice))
    (cursor : Option Int) : Elsewhere place s (s.update who other text splices cursor) := by
  unfold update
  split
  · exact (s.aside_finish _).elsewhere place
  · exact s.elsewhere_synchronize who h text splices _

theorem elsewhere_openBuffer (h : other ≠ place) (text : Document) :
    Elsewhere place s (s.openBuffer other text) := by
  refine ⟨s.keeps_modify_ne _ h, ?_⟩
  simp [openBuffer, notify, Progress.errand?, Pause.errand?, h]

theorem elsewhere_changeSent (h : other ≠ place) (next : AfterChange)
    (outcome : Except Failure Unit) : Elsewhere place s (s.changeSent other next outcome) := by
  unfold changeSent
  dsimp only
  refine Elsewhere.trans ?_ ((aside_afterChange _ other next).elsewhere place)
  cases outcome with
  | ok u => exact s.keeps_modify_ne _ h
  | error why => exact ((s.mild_reportSending other why).keeps place).trans (keeps_modify_ne _ _ h)

theorem elsewhere_sendNotice (method shape : String) (params : Value) :
    Elsewhere place s (s.sendNotice method shape params) := by
  unfold sendNotice
  split
  · exact (s.aside_stop _).elsewhere place
  · exact ⟨fun _ => rfl, rfl⟩

end Others
/-! ## The document itself -/

section Same
variable {s : Session} {place who : Nat} {errand : Nat → Option Errand}

theorem channel_sendNow (hp : place < s.buffers.length) (who : Nat) (errand : Nat → Option Errand)
    (events : List ChangeEvent) (next : AfterChange) :
    (s.sendNow place events next).1.channel place
        (Function.update errand who ((s.sendNow place events next).2.errand? place)) =
      (s.channel place errand).sendNow who (s.buffer place).uri events := by
  have hb := s.buffer_modify_self (fun b => { b with version := b.version + 1 }) hp
  have hr : (s.sendNow place events next).1.buffer place =
      { s.buffer place with version := (s.buffer place).version + 1 } := hb
  have hn : (s.sendNow place events next).2.errand? place =
      some (.changing (.changed (s.buffer place).uri ((s.buffer place).version + 1) events)) := by
    simp [sendNow, notify, Progress.errand?, Pause.errand?, hb]
  rw [channel, hr, hn]
  rfl

theorem acts_turnCame (hp : place < s.buffers.length) {next : AfterTurn}
    (he : errand who = some (.queue next.events)) (hh : (s.buffer place).turns.holder = some who) :
    Acts s place who errand (s.turnCame place next)
      (.grant who (s.buffer place).uri next.events) where
  result := channel_sendNow hp who errand next.events next.next
  allowed := ⟨he, hh⟩
  present _ := hp

theorem acts_send (hp : place < s.buffers.length) (he : errand who = none)
    (events : List ChangeEvent) (next : AfterChange) :
    Acts s place who errand (s.send who place events next)
      (s.sendDeed who place (s.buffer place).text events) := by
  unfold send sendDeed
  dsimp only
  by_cases hr : (s.isReady && (s.buffer place).isOpen) = true
  · have hn : ¬ (!s.isReady || !(s.buffer place).isOpen) = true := by simp_all
    rw [if_neg hn, if_pos hr]
    have hv : (s.buffer place).version ≠ 0 := by simp_all [Buffer.isOpen]
    have hb := s.buffer_modify_self (fun b => { b with turns := b.turns.enter who }) hp
    refine ⟨?_, ⟨he, hv⟩, fun _ => hp⟩
    cases hh : (s.buffer place).turns.holder with
    | none =>
      dsimp only
      rw [channel_sendNow (by simpa [modify] using hp), channel, hb]
      simp [Channel.apply, channel, hh]
    | some holder =>
      simp [Channel.apply, channel, hh, hb, Channel.assign, Progress.errand?, Pause.errand?]
  · have hn : (!s.isReady || !(s.buffer place).isOpen) = true := by simp_all [imp_iff_not_or]
    rw [if_pos hn, if_neg hr]
    have ha := ((s.aside_afterChange place next).elsewhere place).acts he
    exact ⟨ha.result, trivial, fun _ => hp⟩

/-- A text that is kept before events are sent along with it is kept with them. -/
theorem acts_sendDeed (hp : place < s.buffers.length) {a : Advance} {text : Document}
    {events : List ChangeEvent}
    (h : Acts (s.modify place fun b => { b with text := text }) place who errand a
      ((s.modify place fun b => { b with text := text }).sendDeed who place text events)) :
    Acts s place who errand a (s.sendDeed who place text events) := by
  have hb := s.buffer_modify_self (fun b => { b with text := text }) hp
  have hd : (s.modify place fun b => { b with text := text }).sendDeed who place text events =
      s.sendDeed who place text events := by
    unfold sendDeed
    rw [hb]
    rfl
  rw [hd] at h
  obtain ⟨hr, ha, -⟩ := h
  rw [channel, hb] at ha
  refine ⟨hr.trans ?_, ?_, fun _ => hp⟩
  · rw [channel, hb]
    unfold sendDeed
    split <;> rfl
  · unfold sendDeed at ha ⊢
    split <;> simp_all [Channel.Allows, channel]

theorem acts_synchronize (hp : place < s.buffers.length) (he : errand who = none) (text : Document)
    (splices : Option (List Splice)) (next : AfterChange) :
    Acts s place who errand (s.synchronize who place text splices next)
      (s.synchronizeDeed who place text splices) := by
  have hb := s.buffer_modify_self (fun b => { b with text := text }) hp
  unfold synchronize synchronizeDeed
  dsimp only
  cases eventsOf (s.buffer place).options.incremental (s.buffer place).text text splices with
  | error why =>
    -- the text is kept before the events are made up
    refine ⟨?_, trivial, fun _ => hp⟩
    dsimp only
    rw [stop, Progress.errand?, ← he, Function.update_eq_self, channel, hb]
    rfl
  | ok events =>
    refine acts_sendDeed hp ?_
    have h := acts_send (s := s.modify place fun b => { b with text := text })
      (by simpa [modify] using hp) he
    simpa only [hb] using h events next

theorem acts_openBuffer (hp : place < s.buffers.length) {text : Document}
    (he : errand who = none ∨ errand who = some (.await text)) :
    Acts s place who errand (s.openBuffer place text)
      (.tell who (s.buffer place).uri (s.buffer place).language text) where
  result := by
    have hb := s.buffer_modify_self (fun b => { b with text := text, version := 1 }) hp
    have hr : (s.openBuffer place text).1.buffer place =
        { s.buffer place with text := text, version := 1 } := hb
    rw [channel, hr]
    simp [openBuffer, notify, Progress.errand?, Pause.errand?, Channel.apply, Channel.assign, channel]
  allowed := he
  present _ := hp

theorem acts_bufferOpened {other : Nat} {n : Notice} (he : errand who = some (.opening n))
    (isDelivered : Bool) (outcome : Except Failure Unit) :
    Acts s place who errand (s.bufferOpened other outcome) (.told who n isDelivered) where
  result := by
    have h := (s.aside_bufferOpened other outcome).elsewhere place
    rw [h.progress, h.keeps]
    rfl
  allowed := he
  present hn := absurd ((s.aside_bufferOpened other outcome).elsewhere place).progress hn

theorem acts_changeSent (hp : place < s.buffers.length) {n : Notice}
    (he : errand who = some (.changing n)) (isDelivered : Bool) (next : AfterChange)
    (outcome : Except Failure Unit) :
    Acts s place who errand (s.changeSent place next outcome) (.sent who n isDelivered) where
  result := by
    unfold changeSent
    dsimp only
    have h (t : Session) := (t.aside_afterChange place next).elsewhere place
    rw [(h _).progress, (h _).keeps]
    have hm (t : Session) (hk : Keeps place s t) (hl : t.buffers.length = s.buffers.length) :
        (t.modify place fun b => { b with turns := b.turns.leave }).channel place
            (Function.update errand who none) =
          { s.channel place errand with
            turns := (s.buffer place).turns.leave }.assign who none := by
      have hb := t.buffer_modify_self (fun b => { b with turns := b.turns.leave }) (hl ▸ hp)
      have hc := hk errand
      simp only [channel, Channel.mk.injEq] at hc
      simp [channel, hb, hc, Channel.assign]
    cases outcome with
    | ok u => exact hm s (Keeps.refl place s) rfl
    | error why =>
      have hr := s.mild_reportSending place why
      exact hm _ (hr.keeps place) hr.local.length_buffers
  allowed := he
  present _ := hp

end Same
/-! ## Operations and commands -/

theorem find?_lt {s : Session} {name : String} {place : Nat} (h : s.find? name = some place) :
    place < s.buffers.length := by
  unfold find? at h
  rw [List.findSomeRev?_eq_findSome?_reverse] at h
  obtain ⟨⟨b, i⟩, hm, hi⟩ := List.exists_of_findSome?_eq_some h
  rw [List.mem_reverse, List.mem_zipIdx_iff_getElem?] at hm
  dsimp only at hi hm
  split at hi
  · cases hi
    exact (List.getElem?_eq_some_iff.mp hm).1
  · cases hi

@[simp] theorem buffers_joined (s : Session) : s.joined.1.buffers = s.buffers := by
  unfold joined
  split <;> rfl

@[simp] theorem buffers_exchangeFailed (s : Session) (number : Nat) (why : Failure) :
    (s.exchangeFailed number why).buffers = s.buffers := by
  unfold exchangeFailed
  dsimp only
  split <;> rfl

@[simp] theorem buffers_beginExchange (s : Session) (number : Nat) :
    (s.beginExchange number).buffers = s.buffers := by
  unfold beginExchange
  dsimp only
  split
  · exact buffers_exchangeFailed _ _ _
  · rfl

@[simp] theorem buffers_exchangeAnswered (s : Session) (number : Nat)
    (answer : Except Failure Value) :
    (s.exchangeAnswered number answer).buffers = s.buffers := by
  unfold exchangeAnswered
  dsimp only
  split
  · exact buffers_exchangeFailed _ _ _
  · split <;> rfl

@[simp] theorem buffers_deliver (s : Session) (isDelivered : Bool) (notice : Notice) :
    (Pool.deliver s isDelivered notice).buffers = s.buffers := by
  unfold Pool.deliver
  split <;> rfl

theorem keeps_of_buffers {s t : Session} (h : t.buffers = s.buffers) (place : Nat) :
    Keeps place s t := fun errand => by
  simp only [channel, buffer, h]

@[simp] theorem buffers_close (s : Session) : s.close.buffers = s.buffers := by
  unfold close
  split <;> rfl

@[simp] theorem buffers_attach (s : Session) (place : Nat) :
    (s.attach place).buffers = s.buffers := by
  unfold attach
  split <;> rfl

@[simp] theorem buffers_detach (s : Session) (place : Nat) :
    (s.detach place).buffers = s.buffers := by
  unfold detach
  split
  · rfl
  · dsimp only
    split
    · exact buffers_close _
    · rfl

/-- Buffers are added and the documents are as they were. -/
structure Grows (s t : Session) : Prop where
  keeps : ∀ place, Keeps place s t
  length_le : s.buffers.length ≤ t.buffers.length

theorem grows_of_buffers {s t : Session} (h : t.buffers = s.buffers) : Grows s t :=
  ⟨keeps_of_buffers h, Nat.le_of_eq (by rw [h])⟩

theorem Mild.grows {s t : Session} (h : Mild s t) : Grows s t :=
  ⟨h.keeps, Nat.le_of_eq h.local.length_buffers.symm⟩

/-- A new buffer holds what there was at its place before. -/
theorem grows_create (s : Session) (name uri language : String) (options : BufferOptions) :
    Grows s (s.create (.fresh name uri language options)) := by
  constructor
  · intro place errand
    unfold create
    by_cases hp : place < s.buffers.length
    · simp [channel, buffer, hp, List.getElem?_append_left]
    · by_cases he : place = s.buffers.length
      · subst he
        simp [channel, buffer]
        exact ⟨rfl, rfl, rfl⟩
      · have hl : ¬ place < s.buffers.length + 1 := by omega
        simp [channel, buffer, hp, hl]
  · simp [create]

theorem grows_onBuffer (s : Session) (name : String) (act : Nat → Session)
    (h : ∀ place, Grows s (act place)) : Grows s (s.onBuffer name act).1 := by
  unfold onBuffer
  split
  · exact grows_of_buffers rfl
  · exact h _

theorem grows_apply (s : Session) (c : Command) : Grows s (s.apply c).1 := by
  cases c with
  | create name uri language options => exact s.grows_create name uri language options
  | attach name => exact s.grows_onBuffer name _ fun place => grows_of_buffers (by simp)
  | detach name => exact s.grows_onBuffer name _ fun place => grows_of_buffers (by simp)
  | close => exact grows_of_buffers s.buffers_close
  | dispose name =>
    refine grows_of_buffers ?_
    unfold apply dispose
    dsimp only
    split <;> rfl
  | setFeatures name changes =>
    refine s.grows_onBuffer name _ fun other => ⟨fun place => ?_, by simp [modify]⟩
    by_cases ho : other = place
    · subst ho
      by_cases hp : other < s.buffers.length
      · intro errand
        rw [channel, s.buffer_modify_self _ hp]
        rfl
      · refine keeps_of_buffers ?_ other
        simp only [modify]
        exact List.modify_eq_self (by omega)
    · exact s.keeps_modify_ne _ ho
  | hideTooltip name => exact s.grows_onBuffer name _ fun place => (s.mild_hideTooltip place).grows
  | listen | publish | note | fail => exact grows_of_buffers rfl

theorem grows_commands : CommandInvariant Grows where
  refl _ := grows_of_buffers rfl
  trans h h' :=
    ⟨fun place => (h.keeps place).trans (h'.keeps place), Nat.le_trans h.length_le h'.length_le⟩
  apply := grows_apply
  showFindings s place push := (s.mild_showFindings place push).grows
  heard _ _ _ := grows_of_buffers rfl

/-! ## Starting -/

section Starting
variable {s t : Session} {place who : Nat} {errand : Nat → Option Errand}

theorem Acts.of_grows (h : Grows s t) (hl : t.buffers.length = s.buffers.length) {a : Advance}
    {d : Deed} (ha : Acts t place who errand a d) : Acts s place who errand a d :=
  ⟨by rw [ha.result, h.keeps], by rw [← h.keeps]; exact ha.allowed, fun hn => hl ▸ ha.present hn⟩

theorem acts_afterHandshake (hp : place < s.buffers.length) {text : Document}
    (he : errand who = none ∨ errand who = some (.await text)) (outcome : Except Failure Unit) :
    Acts s place who errand (s.afterHandshake (.openBuffer place text) outcome)
      (s.openDeed who place text (some outcome)) := by
  cases outcome with
  | error why => exact ⟨rfl, he.imp_right fun h => ⟨text, h⟩, fun _ => hp⟩
  | ok u => exact acts_openBuffer hp he

theorem elsewhere_afterHandshake (s : Session) {next : AfterHandshake}
    (h : ∀ text, next ≠ .openBuffer place text) (outcome : Except Failure Unit) :
    Elsewhere place s (s.afterHandshake next outcome) := by
  cases outcome with
  | error why => exact (s.aside_stop why).elsewhere place
  | ok u =>
    cases next with
    | finish => exact (s.aside_finish _).elsewhere place
    | openBuffer other text =>
      refine s.elsewhere_openBuffer ?_ text
      rintro rfl
      exact h text rfl

/-- What becomes of opening a document when it is asked for. -/
theorem acts_handshake (hp : place < s.buffers.length) (he : errand who = none) (text : Document) :
    Acts s place who errand (s.handshake (.openBuffer place text))
      (if s.phase = .closed then .giveUp who else s.openDeed who place text s.joinedOutcome) := by
  have hk : Grows s s.joined.1 := grows_of_buffers s.buffers_joined
  unfold handshake
  by_cases hc : s.phase = .closed
  · rw [if_pos hc, if_pos hc]
    exact ⟨rfl, .inl he, fun _ => hp⟩
  · rw [if_neg hc, if_neg hc]
    unfold joinedOutcome
    dsimp only
    cases (s.joined.1.exchanges[s.joined.2]?).bind Exchange.outcome? with
    | none =>
      refine ⟨?_, he, fun _ => hp⟩
      rw [hk.keeps, Progress.errand?, Pause.errand?, if_pos rfl]
      rfl
    | some outcome =>
      have hd : s.openDeed who place text (some outcome) =
          s.joined.1.openDeed who place text (some outcome) := by
        cases outcome <;> simp [openDeed, buffer]
      rw [hd]
      refine Acts.of_grows hk (by simp) (acts_afterHandshake ?_ (.inl he) outcome)
      rwa [buffers_joined]

theorem elsewhere_handshake (s : Session) {next : AfterHandshake}
    (h : ∀ text, next ≠ .openBuffer place text) : Elsewhere place s (s.handshake next) := by
  have hk : Keeps place s s.joined.1 := keeps_of_buffers s.buffers_joined place
  unfold handshake
  split
  · exact (s.aside_stop _).elsewhere place
  · dsimp only
    split
    · exact Elsewhere.trans hk (elsewhere_afterHandshake _ h _)
    · refine ⟨hk, ?_⟩
      cases next with
      | finish => rfl
      | openBuffer other text =>
        refine if_neg ?_
        rintro rfl
        exact h text rfl

/-- An operation about one buffer does its deed to this one and nothing to others. -/
theorem acts_inBuffer {name : String} {act : Nat → Advance} {d : Deed} (he : errand who = none)
    (hsame : place < s.buffers.length → Acts s place who errand (act place) d)
    (hother : ∀ other ≠ place, Elsewhere place s (act other)) :
    Acts s place who errand (s.inBuffer name act)
      (if s.find? name = some place then d else .nothing) := by
  unfold inBuffer
  cases hf : s.find? name with
  | none => exact ((s.aside_stop _).elsewhere place).acts he
  | some other =>
    dsimp only
    by_cases ho : other = place
    · subst ho
      rw [if_pos rfl]
      exact hsame (find?_lt hf)
    · rw [if_neg (by simpa using ho)]
      exact (hother other ho).acts he

theorem acts_update (hp : place < s.buffers.length) (he : errand who = none) (text : Document)
    (splices : Option (List Splice)) (cursor : Option Int) :
    Acts s place who errand (s.update who place text splices cursor)
      (if text ≠ (s.buffer place).text then s.synchronizeDeed who place text splices
        else .nothing) := by
  unfold update
  by_cases ht : text = (s.buffer place).text
  · rw [if_pos ht, if_neg (not_not_intro ht)]
    exact ((s.aside_finish _).elsewhere place).acts he
  · rw [if_neg ht, if_pos ht]
    exact acts_synchronize hp he text splices _

/-- An operation that starts does its deed to the document at a place. -/
theorem acts_begin {depth : Nat} {operation : Operation} {a : Advance} (he : errand who = none)
    (h : s.begin depth who operation = some a) :
    Acts s place who errand a (s.beginDeed who place operation) := by
  by_cases ha : operation.isAside = true
  · have hd : s.beginDeed who place operation = .nothing := by
      cases operation <;> first | rfl | cases ha
    rw [hd]
    exact ((s.aside_begin depth who ha h).elsewhere place).acts he
  · cases operation with
    | perform command =>
      obtain ⟨b, hb, rfl⟩ := Option.map_eq_some_iff.mp h
      exact Elsewhere.acts ⟨(grows_commands.perform hb).keeps place, rfl⟩ he
    | handshake =>
      cases h
      exact (s.elsewhere_handshake (by simp)).acts he
    | openBuffer name text =>
      cases h
      exact acts_inBuffer he (fun hp => acts_handshake hp he text) fun other ho =>
        s.elsewhere_handshake (by simp [ho])
    | update name text splices cursor =>
      cases h
      have hd : s.beginDeed who place (.update name text splices cursor) =
          if s.find? name = some place then
            (if text ≠ (s.buffer place).text then s.synchronizeDeed who place text splices
              else .nothing)
          else .nothing := ite_and _ _ _ _
      rw [hd]
      exact acts_inBuffer he (fun hp => acts_update hp he text splices cursor) fun other ho =>
        s.elsewhere_update who ho text splices cursor
    | synchronize name text splices =>
      cases h
      exact acts_inBuffer he (fun hp => acts_synchronize hp he text splices _) fun other ho =>
        s.elsewhere_synchronize who ho text splices _
    | refresh name =>
      cases h
      exact acts_inBuffer he (fun hp => acts_send hp he _ _) fun other ho =>
        s.elsewhere_send who ho _ _
    | sendEvents name events =>
      cases h
      exact acts_inBuffer he (fun hp => acts_send hp he events _) fun other ho =>
        s.elsewhere_send who ho events _
    | notify method shape params =>
      cases h
      exact (s.elsewhere_sendNotice method shape params).acts he
    | _ => exact absurd rfl ha

theorem length_le_begin {depth : Nat} {operation : Operation} {a : Advance}
    (h : s.begin depth who operation = some a) : s.buffers.length ≤ a.1.buffers.length := by
  have hh (next : AfterHandshake) : (s.handshake next).1.buffers.length = s.buffers.length := by
    unfold handshake
    split
    · rfl
    · dsimp only
      split
      · rw [(local_afterHandshake _ _ _).length_buffers, buffers_joined]
      · rw [buffers_joined]
  obtain hl | ⟨command, rfl⟩ | rfl | ⟨name, text, rfl⟩ := s.local_begin depth who h
  · exact Nat.le_of_eq hl.length_buffers.symm
  · obtain ⟨b, hb, rfl⟩ := Option.map_eq_some_iff.mp h
    exact (grows_commands.perform hb).length_le
  · cases h
    exact Nat.le_of_eq (hh _).symm
  · cases h
    unfold inBuffer
    split
    · exact Nat.le_refl _
    · exact Nat.le_of_eq (hh _).symm

end Starting

/-! ## How deeds start -/

section Starts
variable (s : Session) (who place : Nat)

theorem starts_openDeed (text : Document) (outcome : Option (Except Failure Unit)) :
    (s.openDeed who place text outcome).Starts who := by
  unfold openDeed
  split
  · exact .await text
  · exact .giveUp
  · exact .tell _ _ text

theorem starts_sendDeed (text : Document) (events : List ChangeEvent) :
    (s.sendDeed who place text events).Starts who := by
  unfold sendDeed
  split
  · exact .call _ text events
  · exact .keep text

theorem starts_synchronizeDeed (text : Document) (splices : Option (List Splice)) :
    (s.synchronizeDeed who place text splices).Starts who := by
  unfold synchronizeDeed
  split
  · exact .keep text
  · exact s.starts_sendDeed who place text _

theorem starts_beginDeed (operation : Operation) :
    (s.beginDeed who place operation).Starts who := by
  have hif {P : Prop} [Decidable P] {d : Deed} (h : d.Starts who) :
      (if P then d else .nothing).Starts who := by
    split
    · exact h
    · exact .nothing
  cases operation with
  | openBuffer name text =>
    refine hif ?_
    split
    · exact .giveUp
    · exact s.starts_openDeed who place text _
  | update name text splices cursor => exact hif (s.starts_synchronizeDeed who place text splices)
  | synchronize name text splices => exact hif (s.starts_synchronizeDeed who place text splices)
  | refresh name => exact hif (s.starts_sendDeed who place _ _)
  | sendEvents name events => exact hif (s.starts_sendDeed who place _ events)
  | _ => exact .nothing

end Starts

end Session
end EditorLink
