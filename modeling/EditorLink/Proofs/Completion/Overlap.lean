import EditorLink.Completion.Overlap
import EditorLink.Proofs.Completion.CommonPrefix
import EditorLink.Proofs.Completion.Ranking
import EditorLink.Proofs.Pattern.Escaping

/-!
# The longest overlap

What items can still complete is found behind a line as its longest end that begins what all of
them write.
-/
namespace EditorLink.Completion
variable {common text : List Char}

/-- The text that an item writes: the new text of a plain replacement, otherwise the label. -/
def replacementText (item : CompletionItem) : List Char :=
  match item.textEdit with
  | some (.replacement edit) => edit.newText
  | _ => item.label.toList

theorem writtenText_eq : writtenText = replacementText := by
  funext item
  unfold writtenText replacementText CompletionItem.replacement?
  rcases item.textEdit with - | ⟨edit⟩ | - <;> rfl

/-- What all of some items write first. -/
def commonText (items : List CompletionItem) : List Char :=
  commonPrefix (items.map replacementText)

/-- The longest end of a text, other than nothing, with which another text begins. -/
def overlap? (common text : List Char) : Option (List Char) :=
  text.tails.find? fun t => decide (t ≠ [] ∧ t <+: common)

theorem mem_beginnings {t : List Char} : t ∈ beginnings common ↔ t ≠ [] ∧ t <+: common := by
  rw [beginnings, List.mem_map]
  constructor
  · rintro ⟨i, hi, rfl⟩
    have hlen := List.mem_range.mp hi
    refine ⟨fun h => ?_, List.take_prefix _ _⟩
    have := congrArg List.length h
    rw [List.length_take, List.length_nil] at this
    omega
  · rintro ⟨hne, hp⟩
    have hpos := List.length_pos_iff.mpr hne
    have hle := hp.length_le
    refine ⟨common.length - t.length, List.mem_range.mpr (by omega), ?_⟩
    rw [Nat.sub_sub_self hle, ← List.prefix_iff_eq_take.mp hp]

theorem overlap?_eq_some {t : List Char} :
    overlap? common text = some t ↔ (t <:+ text ∧ t ≠ [] ∧ t <+: common) ∧
      ∀ u, u <:+ text → u ≠ [] → u <+: common → u.length ≤ t.length := by
  rw [overlap?, Pattern.find?_tails_eq_some]
  simp only [decide_eq_true_eq, and_assoc, and_imp]

theorem overlap?_eq_none :
    overlap? common text = none ↔ ∀ u, u <:+ text → u ≠ [] → ¬ u <+: common := by
  simp [overlap?, List.find?_eq_none, List.mem_tails]

theorem overlap?_nil (text : List Char) : overlap? [] text = none :=
  overlap?_eq_none.mpr fun _ _ hne hp => hne (List.prefix_nil.mp hp)

/-- The written pattern for the beginnings of a text is read as a choice of them. -/
theorem read_overlapSource (hc : common ≠ []) :
    ∃ first rest, beginnings common = first :: rest ∧
      Pattern.read .none (overlapSource common) =
        .ok (Pattern.anyOf (.literal first) (rest.map .literal)).anchored := by
  have hne : beginnings common ≠ [] := by
    intro hnil
    have hmem : common ∈ beginnings common := mem_beginnings.mpr ⟨hc, List.prefix_refl _⟩
    simp [hnil] at hmem
  obtain ⟨first, rest, hb⟩ := List.exists_cons_of_ne_nil hne
  refine ⟨first, rest, hb, ?_⟩
  rw [overlapSource, hb, Pattern.read_anchoredSource_escape]

example : overlapSource "f(x".toList = "(?:f\\(x|f\\(|f)$".toList := by decide

theorem overlapPattern_eq_none {items : List CompletionItem} :
    overlapPattern items = none ↔ commonText items = [] := by
  unfold overlapPattern
  dsimp only
  rw [writtenText_eq, ← commonText]
  by_cases hc : commonText items = []
  · simp [hc]
  · obtain ⟨first, rest, -, hread⟩ := read_overlapSource hc
    simp [hc, hread, Except.toOption]

/-- On a line the pattern of what items can still complete finds their longest overlap, up to
the end. -/
theorem search_overlapPattern (items : List CompletionItem) (h : '\n' ∉ text) :
    (overlapPattern items).bind (·.search text) =
      (overlap? (commonText items) text).map fun t => (text.length - t.length, text.length) := by
  unfold overlapPattern
  dsimp only
  rw [writtenText_eq, ← commonText]
  split
  · rename_i hc
    rw [hc, overlap?_nil]
    rfl
  · rename_i hc
    obtain ⟨first, rest, hb, hread⟩ := read_overlapSource hc
    have hsearch := Pattern.search_of_takesRest (Pattern.takesRest_literals first rest) h
    rw [hread, Except.toOption, Option.bind_some, hsearch, overlap?, ← hb]
    simp only [mem_beginnings]

/-- Items with nothing in common leave no pattern. In all other cases its source is well formed, and
a search on a line succeeds if some end of the line begins what the items write in common; it finds
the longest one. -/
theorem overlapPattern_finds_longest (items : List CompletionItem) :
    ∃ common, LongestCommonPrefix (items.map replacementText) common ∧
      (overlapPattern items = none ↔ common = []) ∧
      (common ≠ [] → ∃ p, Pattern.read .none (overlapSource common) = .ok p ∧
        overlapPattern items = some p ∧ ∀ text, '\n' ∉ text →
          ((p.search text).isSome = true ↔ ∃ t, t ≠ [] ∧ t <:+ text ∧ t <+: common) ∧
          ∀ start stop, p.search text = some (start, stop) →
            stop = text.length ∧ text.drop start ≠ [] ∧ text.drop start <+: common ∧
              ∀ t, t ≠ [] → t <:+ text → t <+: common → t.length ≤ stop - start) := by
  refine ⟨commonText items, longestCommonPrefix_commonPrefix _, overlapPattern_eq_none,
    fun hc => ?_⟩
  obtain ⟨first, rest, -, hread⟩ := read_overlapSource hc
  have hpattern : overlapPattern items = some
      (Pattern.anyOf (.literal first) (rest.map .literal)).anchored := by
    rw [overlapPattern, writtenText_eq, ← commonText, if_neg hc, hread, Except.toOption]
  refine ⟨_, hread, hpattern, fun text h => ?_⟩
  have hsearch := search_overlapPattern items h
  rw [hpattern, Option.bind_some] at hsearch
  rw [hsearch]
  constructor
  · rw [Option.isSome_map, Option.isSome_iff_ne_none, ne_eq, overlap?_eq_none]
    push Not
    exact exists_congr fun t => by tauto
  · intro start stop hfound
    obtain ⟨t, ht, hspan⟩ := Option.map_eq_some_iff.mp hfound
    obtain ⟨⟨hsuffix, hne, hbegins⟩, hlongest⟩ := overlap?_eq_some.mp ht
    cases hspan
    rw [← List.suffix_iff_eq_drop.mp hsuffix]
    refine ⟨rfl, hne, hbegins, fun u hu hus hup => (hlongest u hus hu hup).trans ?_⟩
    have := hsuffix.length_le
    omega

/-- Items that write calls: one by a plain replacement, one by its label, and one that leaves it to
the editor whether to insert or to replace. -/
def calls : List CompletionItem :=
  let here : Range := ⟨⟨0, 2⟩, ⟨0, 5⟩⟩
  [{ labelled "call" with textEdit := some (.replacement ⟨here, "f(x)*2".toList⟩) },
    labelled "f(x)",
    { labelled "f(x)+1" with textEdit := some (.choice "g".toList here here) }]

/-- What the calls have in common is found before the cursor as far as it has been typed. -/
theorem overlapPattern_finds_longest_calls :
    calls.map replacementText = ["f(x)*2".toList, "f(x)".toList, "f(x)+1".toList] ∧
      ∃ p, overlapPattern calls = some p ∧ p.search "g(f(x".toList = some (2, 5) ∧
        (∀ t, t ≠ [] → t <:+ "g(f(x".toList → t <+: "f(x)".toList → t.length ≤ 3) ∧
        p.search "g(x".toList = none := by
  obtain ⟨common, hcommon, -, hfinds⟩ := overlapPattern_finds_longest calls
  have hcall : common = "f(x)".toList :=
    ((longestCommonPrefix_commonPrefix _).eq_of_same hcommon fun _ => .rfl).trans (by decide)
  subst hcall
  obtain ⟨p, -, hp, hsearch⟩ := hfinds (by decide)
  have hfound : (overlapPattern calls).bind (·.search "g(f(x".toList) = some (2, 5) := by
    decide +kernel
  have hmissed : (overlapPattern calls).bind (·.search "g(x".toList) = none := by decide +kernel
  rw [hp, Option.bind_some] at hfound hmissed
  exact ⟨rfl, p, hp, hfound, ((hsearch _ (by decide)).2 2 5 hfound).2.2.2, hmissed⟩

/-- Whether the longest overlap, or else some end of the text, covers an end: it does unless less
of that end, and no more of the text, begins what the items write. -/
theorem le_length_overlap_iff {w : List Char} (hw : w <:+ text) :
    w.length ≤ ((overlap? common text).getD w).length ↔
      ∀ u, u ≠ [] → u <:+ w → u <+: common → ∃ t, w <:+ t ∧ t <:+ text ∧ t <+: common := by
  cases ho : overlap? common text with
  | none =>
    have hno := overlap?_eq_none.mp ho
    simp only [Option.getD_none, Nat.le_refl, true_iff]
    exact fun u hne hu hp => absurd hp (hno u (hu.trans hw) hne)
  | some t =>
    obtain ⟨⟨ht, hne, hp⟩, hlongest⟩ := overlap?_eq_some.mp ho
    rw [Option.getD_some]
    constructor
    · intro hlen u _ _ _
      exact ⟨t, List.suffix_of_suffix_length_le hw ht hlen, ht, hp⟩
    · intro hcover
      by_contra hlt
      have htw := List.suffix_of_suffix_length_le ht hw (by omega)
      obtain ⟨v, hwv, hv, hvp⟩ := hcover t hne htw hp
      have hvne : v ≠ [] := by
        rintro rfl
        have := hwv.length_le
        simp at this
        simp [this] at hlt
      have h1 := hlongest v hv hvne hvp
      have h2 := hwv.length_le
      omega

end EditorLink.Completion
