import EditorLink.Completion.Acceptance
import EditorLink.Proofs.Document.Correspondence
import EditorLink.Proofs.Document.Simultaneous

/-!
# The changes of an accepted completion

Accepting a completion changes the document at the cursor and perhaps elsewhere. The changes
elsewhere run forwards and lie inside the document, whatever places their edits name. The one at
the cursor does not if its edit starts at a place that the document has and ends at one that it
does not have, since the latter counts as the start of the document then.

The changes elsewhere can be made one after another, unless two of them end at one place: they
are sorted by where they end, and those that end together stay in the order of the list, in which
what is inserted last comes to stand first.
-/
namespace EditorLink

namespace Completion
open Document Splice
variable {d : Document} {edit : TextEdit} {item : CompletionItem} {start stop : Int}

theorem offsetOrZero_eq {p : Position} {o : Nat} (h : d.offsetOf? p = some o) :
    d.offsetOrZero p = o := by
  simp [offsetOrZero, h]

theorem offsetOrZero_le (d : Document) (p : Position) : d.offsetOrZero p ≤ d.length := by
  unfold offsetOrZero
  cases h : d.offsetOf? p with
  | none => exact Nat.zero_le _
  | some o => exact offsetOf?_le_length h

/-- An item that writes its label at the cursor or replaces something there, and may change
something elsewhere. -/
def offered (label : String) (replacement : Option TextEdit) (elsewhere : List TextEdit) :
    CompletionItem :=
  ⟨label, none, none, none, false, .nothing, replacement.map .replacement, elsewhere, .null⟩

/-! ## Inside the document -/

/-- A change elsewhere runs forwards inside the document. -/
theorem inside_additionalSplice (h : edit.range.start.le edit.range.stop = true) :
    (additionalSplice d edit).Inside d.text := by
  have hstart := offsetOrZero_le d edit.range.start
  refine ⟨Int.natCast_nonneg _, ?_, ?_⟩
  · cases hstop : d.offsetOf? edit.range.stop with
    | none => simp [additionalSplice, hstop]
    | some j =>
      cases hi : d.offsetOf? edit.range.start with
      | none => simp [additionalSplice, offsetOrZero, hstop, hi]
      | some i =>
        have hle := offsetOf?_mono hi hstop h
        simpa [additionalSplice, offsetOrZero, hstop, hi] using hle
  · rw [length_text]
    cases hstop : d.offsetOf? edit.range.stop with
    | none => simpa [additionalSplice, hstop] using hstart
    | some j => simpa [additionalSplice, hstop] using offsetOf?_le_length hstop

/-- A change at the cursor runs forwards inside the document, unless only its end is nowhere. -/
theorem inside_splice_iff (h : edit.range.start.le edit.range.stop = true) :
    (splice d edit).Inside d.text ↔
      (d.offsetOf? edit.range.stop = none → d.offsetOrZero edit.range.start = 0) := by
  constructor
  · rintro ⟨-, hordered, -⟩ hstop
    have hzero : d.offsetOrZero edit.range.stop = 0 := by simp [offsetOrZero, hstop]
    simpa [splice, hzero] using hordered
  · intro hback
    refine ⟨Int.natCast_nonneg _, ?_, ?_⟩
    · cases hstop : d.offsetOf? edit.range.stop with
      | none => simp [splice, hback hstop]
      | some j =>
        cases hi : d.offsetOf? edit.range.start with
        | none => simp [splice, offsetOrZero, hi]
        | some i => simpa [splice, offsetOrZero, hstop, hi] using offsetOf?_mono hi hstop h
    · rw [length_text]
      exact Int.ofNat_le.mpr (offsetOrZero_le d edit.range.stop)

/-- Where the item has no replacement of its own, the stretch at the cursor is changed. -/
theorem inside_mainChange (takesSnippets : Bool) (hbounds : 0 ≤ start ∧ start ≤ stop ∧
    stop ≤ d.length) (h : item.replacement? = none) :
    (mainChange d item start stop takesSnippets).1.Inside d.text := by
  have hin (inserted : List Char) : Splice.Inside d.text ⟨start, stop, inserted⟩ :=
    ⟨hbounds.1, hbounds.2.1, by rw [length_text]; exact hbounds.2.2⟩
  unfold mainChange
  rw [h]
  dsimp only
  split
  · exact hin _
  · exact hin _

/-- All changes of an accepted item run forwards inside the document, if and only if its own
replacement does not end nowhere while it starts behind the first place of the document. -/
theorem inside_accept_iff (takesSnippets : Bool) (hbounds : 0 ≤ start ∧ start ≤ stop ∧
    stop ≤ d.length)
    (forwards : ∀ edit, item.replacement? = some edit → edit.range.start.le edit.range.stop = true)
    (elsewhere : ∀ edit ∈ item.additionalEdits, edit.range.start.le edit.range.stop = true) :
    (∀ s ∈ (accept d item start stop takesSnippets).change ::
        (accept d item start stop takesSnippets).additional, s.Inside d.text) ↔
      ∀ edit, item.replacement? = some edit → d.offsetOf? edit.range.stop = none →
        d.offsetOrZero edit.range.start = 0 := by
  have hchange : (accept d item start stop takesSnippets).change =
      (mainChange d item start stop takesSnippets).1 := rfl
  have hadditional : ∀ s ∈ (accept d item start stop takesSnippets).additional,
      s.Inside d.text := by
    intro s hs
    obtain ⟨edit, hedit, rfl⟩ := List.mem_map.mp hs
    exact inside_additionalSplice (elsewhere edit (List.mem_mergeSort.mp hedit))
  rw [List.forall_mem_cons, and_iff_left hadditional, hchange]
  cases hr : item.replacement? with
  | none => exact ⟨nofun, fun _ => inside_mainChange takesSnippets hbounds hr⟩
  | some edit =>
    have hmain : (mainChange d item start stop takesSnippets).1 = splice d edit := by
      rw [mainChange, hr]
    rw [hmain, inside_splice_iff (forwards edit hr)]
    exact ⟨fun h other ho => Option.some.inj ho ▸ h, fun h => h edit rfl⟩

/-- An item replaces the end of the line and changes something that ends behind the document. -/
def replacingLineEnd : CompletionItem :=
  offered "x" (some ⟨⟨⟨0, 1⟩, ⟨0, 2⟩⟩, "x".toList⟩) [⟨⟨⟨0, 2⟩, ⟨0, 9⟩⟩, "y".toList⟩]

theorem inside_accept_behind :
    (accept (.ofText "ab\nc".toList) replacingLineEnd 1 2 false).additional =
        [⟨2, 2, "y".toList⟩] ∧
      Splice.Inside (Document.ofText "ab\nc".toList).text ⟨1, 2, "x".toList⟩ ∧
      Splice.Inside (Document.ofText "ab\nc".toList).text ⟨2, 2, "y".toList⟩ := by
  have hadditional : (accept (.ofText "ab\nc".toList) replacingLineEnd 1 2 false).additional =
      [⟨2, 2, "y".toList⟩] := by
    rw [accept, replacingLineEnd, offered, List.mergeSort_singleton]
    rfl
  have hinside : ∀ s ∈ (accept (.ofText "ab\nc".toList) replacingLineEnd 1 2 false).change ::
      (accept (.ofText "ab\nc".toList) replacingLineEnd 1 2 false).additional,
      s.Inside (Document.ofText "ab\nc".toList).text := by
    refine (inside_accept_iff false ⟨by decide, by decide, by decide⟩ ?_ ?_).mpr ?_
    · rintro edit ⟨⟩
      rfl
    · decide
    · rintro edit ⟨⟩ hnone
      cases hnone
  rw [hadditional] at hinside
  exact ⟨hadditional, hinside _ (.head _), hinside _ (.tail _ (.head _))⟩

/-- An item that replaces the rest of a line up to a character that the line does not have gives a
change that runs backwards. -/
theorem not_inside_accept_replacement :
    (Position.mk 0 1).le ⟨0, 5⟩ = true ∧
      (accept (.ofText "ab".toList)
        (offered "x" (some ⟨⟨⟨0, 1⟩, ⟨0, 5⟩⟩, "x".toList⟩) []) 1 2 false).change =
          ⟨1, 0, "x".toList⟩ ∧
      ¬ Splice.Inside (Document.ofText "ab".toList).text ⟨1, 0, "x".toList⟩ :=
  ⟨rfl, rfl, fun h => absurd h.ordered (by decide)⟩

/-! ## One after another -/

/-- A range of a document that runs forwards. -/
def Runs (d : Document) (r : Range) : Prop := ∃ i j, d.offsetsOf? r = some (i, j) ∧ i ≤ j

/-- Two ranges of a document have nothing in common; they may touch. -/
def Disjoint (d : Document) (r t : Range) : Prop :=
  d.offsetOrZero r.stop ≤ d.offsetOrZero t.start ∨ d.offsetOrZero t.stop ≤ d.offsetOrZero r.start

/-- Where two ranges end at one place, the one that is listed later is not empty. -/
def Ordered (d : Document) (r t : Range) : Prop :=
  d.offsetOrZero r.stop = d.offsetOrZero t.stop → d.offsetOrZero t.start < d.offsetOrZero t.stop

theorem offsetOrZero_le_of_runs {r : Range} (h : Runs d r) :
    d.offsetOrZero r.start ≤ d.offsetOrZero r.stop := by
  obtain ⟨i, j, hij, hle⟩ := h
  obtain ⟨hi, hj⟩ := offsetsOf?_eq_some.mp hij
  rwa [offsetOrZero_eq hi, offsetOrZero_eq hj]

theorem inside_splice (h : Runs d edit.range) : (splice d edit).Inside d.text := by
  refine ⟨Int.natCast_nonneg _, Int.ofNat_le.mpr (offsetOrZero_le_of_runs h), ?_⟩
  · rw [length_text]
    exact Int.ofNat_le.mpr (offsetOrZero_le d edit.range.stop)

theorem additionalSplice_eq (h : Runs d edit.range) : additionalSplice d edit = splice d edit := by
  obtain ⟨i, j, hij, -⟩ := h
  obtain ⟨-, hj⟩ := offsetsOf?_eq_some.mp hij
  simp [additionalSplice, splice, offsetOrZero, hj]

/-- The changes elsewhere are the edits by where they end, the last first. -/
theorem additional_accept (start stop : Int) (takesSnippets : Bool)
    (h : ∀ edit ∈ item.additionalEdits, Runs d edit.range) :
    (accept d item start stop takesSnippets).additional =
      lastFirst (item.additionalEdits.map (splice d)) := by
  have hsame : (item.additionalEdits.mergeSort (laterFirst d)).map (additionalSplice d) =
      (item.additionalEdits.mergeSort (laterFirst d)).map (splice d) :=
    List.map_congr_left fun edit hedit => additionalSplice_eq (h edit (List.mem_mergeSort.mp hedit))
  have hmap : (item.additionalEdits.mergeSort (laterFirst d)).map (splice d) =
      lastFirst (item.additionalEdits.map (splice d)) :=
    List.map_mergeSort fun a _ b _ => by simp [laterFirst, endsLater, splice]
  exact hsame.trans hmap

/-- The edit that puts back what a range covers, and more behind it. -/
def refill (d : Document) (more : List Char) (r : Range) : TextEdit :=
  ⟨r, (d.text.take (d.offsetOrZero r.stop)).drop (d.offsetOrZero r.start) ++ more⟩

theorem refills_refill (d : Document) (more : List Char) (r : Range) :
    (splice d (refill d more r)).Refills d.text more := rfl

/-- Edits of ranges that have nothing in common are splices that are apart. -/
theorem pairwise_apart {edits : List TextEdit}
    (disjoint : (edits.map (·.range)).Pairwise (Disjoint d)) :
    (edits.map (splice d)).Pairwise Apart :=
  List.pairwise_map.mpr ((List.pairwise_map.mp disjoint).imp fun h =>
    h.imp Int.ofNat_le.mpr Int.ofNat_le.mpr)

theorem forall_inside {edits : List TextEdit} (runs : ∀ r ∈ edits.map (·.range), Runs d r) :
    ∀ s ∈ edits.map (splice d), s.Inside d.text := by
  intro s hs
  obtain ⟨edit, hedit, rfl⟩ := List.mem_map.mp hs
  exact inside_splice (runs _ (List.mem_map_of_mem hedit))

/-- If two ranges end at one place and the later one is empty, some edits of the ranges do
something else in turn than at once. -/
theorem exists_applyInTurn_ne {ranges : List Range} {r t : Range} (runs : ∀ r ∈ ranges, Runs d r)
    (disjoint : ranges.Pairwise (Disjoint d)) (hsub : [r, t].Sublist ranges)
    (hnot : ¬ Ordered d r t) :
    ∃ edits : List TextEdit, edits.map (·.range) = ranges ∧
      applyInTurn (lastFirst (edits.map (splice d))) d.text ≠
        applyTogether (edits.map (splice d)) d.text := by
  obtain ⟨first, middle, third, rfl⟩ := exists_split_of_pair hsub
  obtain ⟨hstop, hnarrow⟩ := Classical.not_imp.mp hnot
  have hinsertion : d.offsetOrZero t.start = d.offsetOrZero t.stop := by
    have := offsetOrZero_le_of_runs (runs t (hsub.subset (by simp)))
    omega
  -- the edits of all other ranges put back what they replace
  let edits := first.map (refill d []) ++ refill d ['a'] r ::
    (middle.map (refill d []) ++ refill d ['b'] t :: third.map (refill d []))
  let others := (first ++ (middle ++ third)).map fun r => splice d (refill d [] r)
  have hedits : edits.map (·.range) = first ++ r :: (middle ++ t :: third) := by
    simp [edits, refill, Function.comp_def]
  have hpair : [refill d ['a'] r, refill d ['b'] t].Sublist edits :=
    ((List.singleton_sublist.mpr (by simp)).cons_cons _).trans (List.sublist_append_right _ _)
  have hperm : (edits.map (splice d)).Perm
      ([splice d (refill d ['a'] r), splice d (refill d ['b'] t)] ++ others) := by
    have htwo := perm_two ((first.map (refill d [])).map (splice d))
      ((middle.map (refill d [])).map (splice d)) ((third.map (refill d [])).map (splice d))
      (splice d (refill d ['a'] r)) (splice d (refill d ['b'] t))
    simpa [edits, others, Function.comp_def] using htwo
  have hothers : ∀ s ∈ others, s.Refills d.text [] := by
    intro s hs
    obtain ⟨r, -, rfl⟩ := List.mem_map.mp hs
    exact refills_refill d [] r
  rw [← hedits] at runs disjoint
  exact ⟨edits, hedits, applyInTurn_lastFirst_ne (hpair.map (splice d)) hperm (forall_inside runs)
    (pairwise_apart disjoint) hothers (refills_refill d ['a'] r) (refills_refill d ['b'] t)
    (congrArg Int.ofNat hstop) (congrArg Int.ofNat hinsertion)⟩

/-- The changes elsewhere, made one after another, do what all edits do at once, whatever these
write, if and only if of two edits that end at one place the one that is listed later replaces
something. -/
theorem applyInTurn_additional_iff {ranges : List Range} (start stop : Int) (takesSnippets : Bool)
    (runs : ∀ r ∈ ranges, Runs d r) (disjoint : ranges.Pairwise (Disjoint d)) :
    (∀ item : CompletionItem, item.additionalEdits.map (·.range) = ranges →
        applyInTurn (accept d item start stop takesSnippets).additional d.text =
          applyTogether (item.additionalEdits.map (splice d)) d.text) ↔
      ranges.Pairwise (Ordered d) := by
  constructor
  · intro hall
    by_contra hnot
    obtain ⟨r, t, hsub, hrt⟩ : ∃ r t, [r, t].Sublist ranges ∧ ¬ Ordered d r t := by
      simpa [List.pairwise_iff_forall_sublist] using hnot
    obtain ⟨edits, rfl, hne⟩ := exists_applyInTurn_ne runs disjoint hsub hrt
    have hsame := hall (offered "" none edits) rfl
    rw [additional_accept start stop takesSnippets fun edit hedit =>
      runs _ (List.mem_map_of_mem hedit)] at hsame
    exact hne hsame
  · rintro hordered item rfl
    rw [additional_accept start stop takesSnippets fun edit hedit =>
      runs _ (List.mem_map_of_mem hedit)]
    refine applyInTurn_lastFirst (forall_inside runs) (pairwise_apart disjoint) ?_
    refine List.pairwise_map.mpr ((List.pairwise_map.mp hordered).imp ?_)
    exact fun h hstop => Int.ofNat_lt.mpr (h (Int.ofNat.inj hstop))

/-- The end of a line is replaced, and listed before that something is inserted behind it. -/
theorem applyInTurn_additional_imports :
    applyInTurn (accept (.ofText "ab\ncd".toList)
        (offered "x" none [⟨⟨⟨1, 0⟩, ⟨1, 0⟩⟩, "e".toList⟩, ⟨⟨⟨0, 1⟩, ⟨1, 0⟩⟩, "f".toList⟩,
          ⟨⟨⟨0, 0⟩, ⟨0, 0⟩⟩, "g".toList⟩]) 5 5 false).additional "ab\ncd".toList =
      applyTogether [⟨3, 3, "e".toList⟩, ⟨1, 3, "f".toList⟩, ⟨0, 0, "g".toList⟩]
        "ab\ncd".toList := by
  refine (@applyInTurn_additional_iff (.ofText "ab\ncd".toList)
    [⟨⟨1, 0⟩, ⟨1, 0⟩⟩, ⟨⟨0, 1⟩, ⟨1, 0⟩⟩, ⟨⟨0, 0⟩, ⟨0, 0⟩⟩] 5 5 false ?_ ?_).mpr ?_
    (offered "x" none [⟨⟨⟨1, 0⟩, ⟨1, 0⟩⟩, "e".toList⟩, ⟨⟨⟨0, 1⟩, ⟨1, 0⟩⟩, "f".toList⟩,
      ⟨⟨⟨0, 0⟩, ⟨0, 0⟩⟩, "g".toList⟩]) rfl
  · simp only [List.forall_mem_cons]
    exact ⟨⟨3, 3, by decide, by decide⟩, ⟨1, 3, by decide, by decide⟩,
      ⟨0, 0, by decide, by decide⟩, nofun⟩
  · unfold Disjoint
    decide
  · unfold Ordered
    decide

/-- Of two insertions at one place, what the second one inserts comes to stand in front. -/
theorem applyInTurn_additional_ne :
    applyInTurn (accept (.ofText "ab".toList)
        (offered "x" none [⟨⟨⟨0, 1⟩, ⟨0, 1⟩⟩, "A".toList⟩, ⟨⟨⟨0, 1⟩, ⟨0, 1⟩⟩, "B".toList⟩]) 0 0
          false).additional "ab".toList = "aBAb".toList ∧
      applyTogether [⟨1, 1, "A".toList⟩, ⟨1, 1, "B".toList⟩] "ab".toList = "aABb".toList := by
  constructor
  · rw [accept, List.mergeSort_of_pairwise (by decide)]
    decide
  · rw [applyTogether, inOrder, List.mergeSort_of_pairwise (by decide)]
    decide

end Completion
end EditorLink
