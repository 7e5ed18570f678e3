import EditorLink.Document.Splice
import EditorLink.Proofs.Document.Places

/-!
# What a server makes of change events

A server keeps a text and applies the events that it is told one after another, each to
the text that the one before has left. Events that tell about splices of one text come
last splice first, so each finds the text above it as the editor had it, and together
they do what the splices do at once.
-/
namespace EditorLink

namespace ChangeEvent

/-- The text that a server holds after an event. A stretch that its text does not have
makes no sense to it. -/
def serve? (text : List Char) : ChangeEvent → Option (List Char)
  | .whole new => some new
  | .ranged range new _ => do
    let (start, stop) ← (Document.ofText text).offsetsOf? range
    if start ≤ stop then some (text.take start ++ new ++ text.drop stop) else none

/-- The text that a server holds after some events in turn. -/
def serveAll? (text : List Char) (events : List ChangeEvent) : Option (List Char) :=
  events.foldlM serve? text

theorem serveAll?_append (text : List Char) (first second : List ChangeEvent) :
    serveAll? text (first ++ second) = (serveAll? text first).bind (serveAll? · second) := by
  unfold serveAll?
  rw [List.foldlM_append]
  rfl

theorem serveAll?_singleton (text : List Char) (e : ChangeEvent) :
    serveAll? text [e] = serve? text e := by
  simp [serveAll?]

end ChangeEvent

namespace Splice
open ChangeEvent

instance decidableAscendingFrom : ∀ offset splices, Decidable (AscendingFrom offset splices)
  | _, [] => .isTrue trivial
  | offset, s :: rest =>
    have := decidableAscendingFrom s.stop rest
    inferInstanceAs (Decidable (offset ≤ s.start ∧ s.start ≤ s.stop ∧ AscendingFrom s.stop rest))

/-- A batch of splices that a text can take at once: in ascending order and inside the
text, with newlines alone as line breaks, and only one if it replaces the whole text. -/
structure Fits (text : List Char) (splices : List Splice) : Prop where
  ascending : AscendingFrom 0 splices
  inside : ∀ s ∈ splices, s.stop ≤ text.length
  plain : ∀ s ∈ splices, '\r' ∉ s.inserted
  alone : ∀ s ∈ splices, s.start = 0 → s.stop = text.length → splices = [s]

theorem mem_applyFrom {c : Char} {splices : List Splice} {offset : Nat} {text : List Char}
    (h : c ∈ applyFrom offset splices text) : c ∈ text ∨ ∃ s ∈ splices, c ∈ s.inserted := by
  induction splices generalizing offset text with
  | nil => exact .inl h
  | cons s rest ih =>
    simp only [applyFrom, List.mem_append] at h
    obtain (h | h) | h := h
    · exact .inl (List.mem_of_mem_take h)
    · exact .inr ⟨s, List.mem_cons_self, h⟩
    · obtain h | ⟨r, hr, h⟩ := ih h
      · exact .inl (List.mem_of_mem_drop h)
      · exact .inr ⟨r, List.mem_cons_of_mem _ hr, h⟩

/-- A splice leaves the text above it, and what is below it to the splices after it. -/
theorem take_append_applyFrom_cons (text : List Char) {offset : Nat} {s : Splice}
    (rest : List Splice) (ha : offset ≤ s.start.toNat) (hb : offset ≤ s.stop.toNat) :
    text.take offset ++ applyFrom offset (s :: rest) (text.drop offset) =
      text.take s.start.toNat ++ s.inserted ++
        applyFrom s.stop.toNat rest (text.drop s.stop.toNat) := by
  have ht : text.take offset ++ (text.drop offset).take (s.start.toNat - offset) =
      text.take s.start.toNat := by
    rw [← List.take_add]
    congr 1
    omega
  have hd : (text.drop offset).drop (s.stop.toNat - offset) = text.drop s.stop.toNat := by
    rw [List.drop_drop]
    congr 1
    omega
  rw [applyFrom, hd, ← List.append_assoc, ← List.append_assoc, ht]

/-- The event for a splice finds its place in every text that starts like the document. -/
theorem serve?_ranged {text more : List Char} {start stop : Nat} (h : '\r' ∉ text.take stop ++ more)
    (hs : start ≤ stop) (hl : stop ≤ text.length) (inserted : List Char) (length : Option Int) :
    serve? (text.take stop ++ more)
        (.ranged ⟨.behind (text.take start), .behind (text.take stop)⟩ inserted length) =
      some (text.take start ++ inserted ++ more) := by
  have hsplit : text.take stop ++ more =
      text.take start ++ ((text.take stop).drop start ++ more) := by
    have ht : text.take start = (text.take stop).take start := by
      rw [List.take_take, Nat.min_eq_left hs]
    rw [ht, ← List.append_assoc, List.take_append_drop]
  have hstop := Document.offsetOf?_behind h
  have hstart : (Document.ofText (text.take stop ++ more)).offsetOf? (.behind (text.take start)) =
      some (text.take start).length := by
    rw [hsplit] at h ⊢
    exact Document.offsetOf?_behind h
  rw [List.length_take, Nat.min_eq_left hl] at hstop
  rw [List.length_take, Nat.min_eq_left (Nat.le_trans hs hl)] at hstart
  have hlen : (text.take stop).length = stop := by
    rw [List.length_take, Nat.min_eq_left hl]
  have hdrop : (text.take stop ++ more).drop stop = more := List.drop_left' hlen
  have htake : (text.take stop ++ more).take start = text.take start := by
    rw [List.take_append_of_le_length (by omega), List.take_take, Nat.min_eq_left hs]
  simp only [serve?, Document.offsetsOf?, hstart, hstop, bind, Option.bind, pure, if_pos hs, hdrop,
    htake]

/-- A splice of the whole document. -/
def IsWhole (d : Document) (s : Splice) : Prop := s.start = 0 ∧ s.stop = d.length

instance (d : Document) (s : Splice) : Decidable (s.IsWhole d) :=
  inferInstanceAs (Decidable (_ ∧ _))

/-- A splice that a server can be told about: it is one of the whole document, or both its ends
have positions that can be sent. -/
def Tellable (d : Document) (s : Splice) : Prop :=
  s.IsWhole d ∨ d.Reaches s.start ∧ d.Reaches s.stop

theorem event_of_isWhole {d : Document} {s : Splice} (h : s.IsWhole d) :
    event d s = .ok (.whole s.inserted) := by
  rw [event, if_pos (by simpa [IsWhole] using h)]

theorem event_of_not_isWhole {d : Document} {s : Splice} (h : ¬ s.IsWhole d) :
    event d s = do
      let start ← d.positionOf s.start
      let stop ← d.positionOf s.stop
      return .ranged ⟨start, stop⟩ s.inserted none := by
  rw [event, if_neg (by simpa [IsWhole] using h)]

theorem exists_event_iff {d : Document} {s : Splice} :
    (∃ e, event d s = .ok e) ↔ s.Tellable d := by
  by_cases hw : s.IsWhole d
  · exact ⟨fun _ => .inl hw, fun _ => ⟨_, event_of_isWhole hw⟩⟩
  · rw [event_of_not_isWhole hw, Tellable, or_iff_right hw, ← Document.exists_positionOf_iff,
      ← Document.exists_positionOf_iff]
    cases d.positionOf s.start with
    | error why => exact ⟨nofun, nofun⟩
    | ok start =>
      cases d.positionOf s.stop with
      | error why => exact ⟨nofun, nofun⟩
      | ok stop => exact ⟨fun _ => ⟨⟨_, rfl⟩, _, rfl⟩, fun _ => ⟨_, rfl⟩⟩

/-- A server can be told about a batch of splices if it can be told about each of them. -/
theorem exists_events_iff {d : Document} {splices : List Splice} :
    (∃ events, Splice.events d splices = .ok events) ↔ ∀ s ∈ splices, s.Tellable d := by
  have hall : (∃ events, Splice.events d splices = .ok events) ↔
      ∃ inOrder, splices.mapM (event d) = .ok inOrder := by
    rw [Splice.events]
    cases splices.mapM (event d) with
    | error why => exact ⟨nofun, nofun⟩
    | ok inOrder => exact ⟨fun _ => ⟨_, rfl⟩, fun _ => ⟨_, rfl⟩⟩
  rw [hall, exists_mapM_iff]
  exact forall₂_congr fun s _ => exists_event_iff

theorem positionOf_ofText {text : List Char} (h : '\r' ∉ text) {offset : Int} {p : Position}
    (h0 : 0 ≤ offset) (hl : offset ≤ text.length)
    (hp : (Document.ofText text).positionOf offset = .ok p) :
    p = .behind (text.take offset.toNat) := by
  have hsplit : '\r' ∉ text.take offset.toNat ++ text.drop offset.toNat := by
    rwa [List.take_append_drop]
  refine Document.positionOf_append hsplit ?_
  have hlen : (((text.take offset.toNat).length : Nat) : Int) = offset := by
    rw [List.length_take]
    omega
  rwa [List.take_append_drop, hlen]

/-- What a server is told about a splice of a part of the text. -/
theorem event_ofText {text : List Char} (h : '\r' ∉ text) {s : Splice}
    (hw : ¬ s.IsWhole (.ofText text)) (ht : s.Tellable (.ofText text)) :
    event (.ofText text) s =
      .ok (.ranged ⟨.behind (text.take s.start.toNat), .behind (text.take s.stop.toNat)⟩
        s.inserted none) := by
  obtain ⟨hstart, hstop⟩ := ht.resolve_left hw
  obtain ⟨start, hp⟩ := Document.exists_positionOf_iff.mpr hstart
  obtain ⟨stop, hq⟩ := Document.exists_positionOf_iff.mpr hstop
  have hlen := Document.length_ofText h
  rw [event_of_not_isWhole hw, hp, hq]
  rw [positionOf_ofText h hstart.nonneg (hlen ▸ hstart.le_length) hp,
    positionOf_ofText h hstop.nonneg (hlen ▸ hstop.le_length) hq]
  rfl

/-- The splices of a batch up to the first one of the whole text. -/
def heeded (d : Document) : List Splice → List Splice
  | [] => []
  | s :: rest => if s.IsWhole d then [s] else s :: heeded d rest

theorem heeded_subset (d : Document) (splices : List Splice) : heeded d splices ⊆ splices := by
  induction splices with
  | nil => exact List.Subset.refl _
  | cons s rest ih =>
    rw [heeded]
    split
    · simp
    · exact List.cons_subset_cons _ ih

/-- A server that is told about splices of the text that it holds, last first, does what those
up to the first one of the whole text do at once: a whole text that it is told replaces what the
splices below have done. What lies before an offset stays. -/
theorem serveAll?_mapM_event {text : List Char} (h : '\r' ∉ text) {splices : List Splice}
    {offset : Nat} (hasc : AscendingFrom offset splices) (hoff : offset ≤ text.length)
    (hin : ∀ s ∈ splices, s.stop ≤ text.length) (hplain : ∀ s ∈ splices, '\r' ∉ s.inserted)
    (htell : ∀ s ∈ splices, s.Tellable (.ofText text)) :
    ∃ inOrder, splices.mapM (event (.ofText text)) = .ok inOrder ∧
      serveAll? text inOrder.reverse =
        some (text.take offset ++ applyFrom offset (heeded (.ofText text) splices)
          (text.drop offset)) := by
  induction splices generalizing offset with
  | nil => exact ⟨[], rfl, by simp [serveAll?, heeded, applyFrom]⟩
  | cons s rest ih =>
    obtain ⟨ha, hb, hrest⟩ := hasc
    have hs := hin s List.mem_cons_self
    have hstop : ((s.stop.toNat : Nat) : Int) = s.stop := by omega
    have hasc' : AscendingFrom s.stop.toNat rest := by rwa [hstop]
    -- the events of the later splices reach the server first and leave all above them alone
    obtain ⟨inOrder, hm, hserve⟩ := ih hasc' (by omega)
      (fun r hr => hin r (List.mem_cons_of_mem _ hr))
      (fun r hr => hplain r (List.mem_cons_of_mem _ hr))
      (fun r hr => htell r (List.mem_cons_of_mem _ hr))
    rw [heeded]
    split
    · rename_i hw
      obtain ⟨hstart, hend⟩ := id hw
      rw [Document.length_ofText h] at hend
      have hzero : offset = 0 := by omega
      subst hzero
      refine ⟨_, by rw [List.mapM_cons, event_of_isWhole hw, hm]; rfl, ?_⟩
      rw [List.reverse_cons, serveAll?_append, hserve, Option.bind_some, serveAll?_singleton]
      simp [serve?, applyFrom, hstart, hend]
    · rename_i hw
      have he := event_ofText h hw (htell s List.mem_cons_self)
      rw [take_append_applyFrom_cons text _ (by omega) (by omega)]
      refine ⟨_, by rw [List.mapM_cons, he, hm]; rfl, ?_⟩
      rw [List.reverse_cons, serveAll?_append, hserve, Option.bind_some, serveAll?_singleton]
      refine serve?_ranged ?_ (by omega) (by omega) s.inserted none
      intro hr
      rw [List.mem_append] at hr
      obtain hr | hr := hr
      · exact h (List.mem_of_mem_take hr)
      · obtain hr | ⟨r, hr, hi⟩ := mem_applyFrom hr
        · exact h (List.mem_of_mem_drop hr)
        · exact hplain r (List.mem_cons_of_mem _ (heeded_subset _ rest hr)) hi

theorem heeded_of_alone {d : Document} {splices : List Splice}
    (h : ∀ s ∈ splices, s.IsWhole d → splices = [s]) : heeded d splices = splices := by
  induction splices with
  | nil => rfl
  | cons s rest ih =>
    rw [heeded]
    split
    · rename_i hw
      exact (h s List.mem_cons_self hw).symm
    · rw [ih]
      intro r hr hw
      have hone := h r (List.mem_cons_of_mem _ hr) hw
      rw [(List.cons.inj hone).2] at hr
      cases hr

/-- Splices inside a document can be told, unless it is very long. -/
theorem tellable_of_inside {d : Document} (hm : d.length ≤ Failure.maxCoordinate) {s : Splice}
    (hstart : 0 ≤ s.start ∧ s.start ≤ d.length) (hstop : 0 ≤ s.stop ∧ s.stop ≤ d.length) :
    s.Tellable d :=
  .inr ⟨Document.reaches_of_length hstart.1 hstart.2 hm,
    Document.reaches_of_length hstop.1 hstop.2 hm⟩

theorem AscendingFrom.bounds {splices : List Splice} {offset : Int}
    (h : AscendingFrom offset splices) : ∀ s ∈ splices, offset ≤ s.start ∧ s.start ≤ s.stop := by
  induction splices generalizing offset with
  | nil => nofun
  | cons s rest ih =>
    obtain ⟨ha, hb, hrest⟩ := h
    intro r hr
    obtain rfl | hr := List.mem_cons.mp hr
    · exact ⟨ha, hb⟩
    · have := ih hrest r hr
      omega

theorem tellable_of_ascending {d : Document} (hm : d.length ≤ Failure.maxCoordinate)
    {splices : List Splice} (hasc : AscendingFrom 0 splices)
    (hin : ∀ s ∈ splices, s.stop ≤ d.length) : ∀ s ∈ splices, s.Tellable d := by
  intro s hs
  obtain ⟨h0, h1⟩ := hasc.bounds s hs
  have h2 := hin s hs
  exact tellable_of_inside hm ⟨h0, by omega⟩ ⟨by omega, h2⟩

/-- The events for a batch of splices bring a server that holds the same text to what
the splices make of it at once. -/
theorem events_faithful {text : List Char} {splices : List Splice} (h : '\r' ∉ text)
    (hlen : text.length ≤ Failure.maxCoordinate) (hf : Fits text splices) :
    ∃ events, Splice.events (.ofText text) splices = .ok events ∧
      serveAll? text events = some (applyAtOnce splices text) := by
  have hdoc := Document.length_ofText h
  have htell := tellable_of_ascending (hdoc.symm ▸ hlen) hf.ascending (hdoc.symm ▸ hf.inside)
  obtain ⟨inOrder, hm, hs⟩ := serveAll?_mapM_event h hf.ascending (Nat.zero_le _) hf.inside
    hf.plain htell
  have halone : ∀ s ∈ splices, s.IsWhole (.ofText text) → splices = [s] := fun s hs hw =>
    hf.alone s hs hw.1 (hdoc ▸ hw.2)
  rw [heeded_of_alone halone] at hs
  refine ⟨inOrder.reverse, ?_, by simpa [applyAtOnce] using hs⟩
  rw [Splice.events, hm]
  rfl

/-- Whatever the lines of a document hold, splices inside it can be told. -/
theorem exists_events (d : Document) (splices : List Splice)
    (hm : d.length ≤ Failure.maxCoordinate)
    (hin : ∀ s ∈ splices, (0 ≤ s.start ∧ s.start ≤ d.length) ∧ 0 ≤ s.stop ∧ s.stop ≤ d.length) :
    ∃ events, Splice.events d splices = .ok events :=
  exists_events_iff.mpr fun s hs => tellable_of_inside hm (hin s hs).1 (hin s hs).2

/-! ## Batches with a splice of the whole text -/

theorem applyFrom_nil (offset : Nat) (splices : List Splice) :
    applyFrom offset splices [] = splices.flatMap (·.inserted) := by
  induction splices generalizing offset with
  | nil => rfl
  | cons s rest ih => simp [applyFrom, ih]

/-- Nothing is lost below a splice of the whole text if nothing is inserted there. -/
theorem applyFrom_heeded_iff {text : List Char} (h : '\r' ∉ text) {splices : List Splice}
    {offset : Nat} (hasc : AscendingFrom offset splices) (hin : ∀ s ∈ splices, s.stop ≤ text.length) :
    applyFrom offset (heeded (.ofText text) splices) (text.drop offset) =
        applyFrom offset splices (text.drop offset) ↔
      splices.Pairwise fun s r => s.IsWhole (.ofText text) → r.inserted = [] := by
  induction splices generalizing offset with
  | nil => simp [heeded]
  | cons s rest ih =>
    obtain ⟨ha, hb, hrest⟩ := hasc
    have hs := hin s List.mem_cons_self
    have hdrop : (text.drop offset).drop (s.stop.toNat - offset) = text.drop s.stop.toNat := by
      rw [List.drop_drop]
      congr 1
      omega
    rw [heeded, List.pairwise_cons]
    split
    · rename_i hw
      have hbelow : text.drop s.stop.toNat = [] := by simp [hw.2, Document.length_ofText h]
      simp only [applyFrom, hdrop, hbelow, applyFrom_nil, List.append_cancel_left_eq, hw,
        forall_const]
      rw [eq_comm, List.flatMap_eq_nil_iff]
      exact ⟨fun h => ⟨h, List.pairwise_of_forall_mem_list fun _ _ r hr _ => h r hr⟩, And.left⟩
    · rename_i hw
      have hstop : ((s.stop.toNat : Nat) : Int) = s.stop := by omega
      have hasc' : AscendingFrom s.stop.toNat rest := by rwa [hstop]
      have hmore := ih hasc' fun r hr => hin r (List.mem_cons_of_mem _ hr)
      simp only [applyFrom, hdrop, List.append_cancel_left_eq, hmore, hw, false_implies,
        implies_true, true_and]

theorem ofText_text {t : List Char} (h : '\r' ∉ (Document.ofText t).text) :
    Document.ofText (Document.ofText t).text = Document.ofText t := by
  have htext : (Document.ofText t).text = Text.unixNewlines t := Text.joinLines_splitLines _
  rw [htext] at h ⊢
  simp only [Document.ofText, Text.unixNewlines_of_not_mem h]

/-- A server that holds the text of a document and is told about a batch of splices of it ends
with what the splices make of the text at once, if and only if all of them can be told and no
splice that inserts something comes behind one of the whole document. -/
theorem events_faithful_iff {t : List Char} {splices : List Splice}
    (plain : '\r' ∉ (Document.ofText t).text) (ascending : AscendingFrom 0 splices)
    (inside : ∀ s ∈ splices, s.stop ≤ (Document.ofText t).length)
    (inserted : ∀ s ∈ splices, '\r' ∉ s.inserted) :
    (∃ events, Splice.events (.ofText t) splices = .ok events ∧
        serveAll? (Document.ofText t).text events =
          some (applyAtOnce splices (Document.ofText t).text)) ↔
      (∀ s ∈ splices, s.Tellable (.ofText t)) ∧
        splices.Pairwise fun s r => s.IsWhole (.ofText t) → r.inserted = [] := by
  obtain ⟨text, h, hsame⟩ : ∃ text, '\r' ∉ text ∧ Document.ofText t = Document.ofText text :=
    ⟨_, plain, (ofText_text plain).symm⟩
  rw [hsame, Document.length_ofText h] at inside
  rw [hsame, Document.text_ofText h]
  have hheeded : applyFrom 0 (heeded (.ofText text) splices) (text.drop 0) =
      applyFrom 0 splices (text.drop 0) ↔ _ := applyFrom_heeded_iff h ascending inside
  rw [List.drop_zero] at hheeded
  constructor
  · rintro ⟨events, hevents, hserve⟩
    have htell := exists_events_iff.mp ⟨events, hevents⟩
    obtain ⟨inOrder, hm, hs⟩ := serveAll?_mapM_event h ascending (Nat.zero_le _) inside inserted
      htell
    rw [Splice.events, hm] at hevents
    cases hevents
    rw [hserve, Option.some_inj] at hs
    exact ⟨htell, hheeded.mp (by simpa [applyAtOnce] using hs.symm)⟩
  · rintro ⟨htell, hlast⟩
    obtain ⟨inOrder, hm, hs⟩ := serveAll?_mapM_event h ascending (Nat.zero_le _) inside inserted
      htell
    refine ⟨inOrder.reverse, by rw [Splice.events, hm]; rfl, ?_⟩
    rw [hs, List.take_zero, List.nil_append, List.drop_zero, hheeded.mpr hlast, applyAtOnce]

/-- Two lines are replaced at once, between an insertion above and nothing inserted below. -/
theorem events_faithful_insertions :
    '\r' ∉ (Document.ofText "ab\ncd".toList).text ∧
      AscendingFrom 0 [⟨0, 0, "x".toList⟩, ⟨0, 5, "y\nz".toList⟩, ⟨5, 5, []⟩] ∧
      ∃ events, Splice.events (.ofText "ab\ncd".toList)
          [⟨0, 0, "x".toList⟩, ⟨0, 5, "y\nz".toList⟩, ⟨5, 5, []⟩] = .ok events ∧
        serveAll? (Document.ofText "ab\ncd".toList).text events =
          some (applyAtOnce [⟨0, 0, "x".toList⟩, ⟨0, 5, "y\nz".toList⟩, ⟨5, 5, []⟩]
            (Document.ofText "ab\ncd".toList).text) := by
  have hplain : '\r' ∉ (Document.ofText "ab\ncd".toList).text := by decide
  have hasc : AscendingFrom 0 [⟨0, 0, "x".toList⟩, ⟨0, 5, "y\nz".toList⟩, ⟨5, 5, []⟩] :=
    by decide
  have htell := tellable_of_ascending (d := .ofText "ab\ncd".toList) (by decide) hasc (by decide)
  exact ⟨hplain, hasc, (events_faithful_iff hplain hasc (by decide) (by decide)).mpr
    ⟨htell, by decide⟩⟩

/-- An insertion that touches a splice of the whole text from behind is lost. -/
theorem events_lose_insertion :
    AscendingFrom 0 [⟨0, 2, "y".toList⟩, ⟨2, 2, "x".toList⟩] ∧
      Splice.events (.ofText "ab".toList) [⟨0, 2, "y".toList⟩, ⟨2, 2, "x".toList⟩] =
        .ok [.ranged ⟨⟨0, 2⟩, ⟨0, 2⟩⟩ "x".toList none, .whole "y".toList] ∧
      serveAll? "ab".toList [.ranged ⟨⟨0, 2⟩, ⟨0, 2⟩⟩ "x".toList none, .whole "y".toList] =
        some "y".toList ∧
      applyAtOnce [⟨0, 2, "y".toList⟩, ⟨2, 2, "x".toList⟩] "ab".toList = "yx".toList := by
  exact ⟨by decide, rfl, by decide, by decide⟩

end Splice
end EditorLink
