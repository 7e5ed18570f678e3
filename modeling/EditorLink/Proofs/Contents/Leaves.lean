import EditorLink.Proofs.Contents.Bare

/-!
# The leaves of nested contents

Contents may be lists of contents, lists of lists among them. What they show is what their leaves
show from left to right, with a blank line between the texts that are not empty, because texts put
one above another in this way make the same text however they are grouped. So contents are shown
as a single list of their leaves is, and count as nothing to see if all of these do. Of such
contents nothing but white space and backticks is shown.
-/
namespace EditorLink

namespace Text

theorem mem_joinWith {separator : List Char} {pieces : List (List Char)} {x : Char}
    (h : x ∈ joinWith separator pieces) : x ∈ separator ∨ ∃ piece ∈ pieces, x ∈ piece := by
  induction pieces with
  | nil => cases h
  | cons piece rest ih =>
    obtain rfl | hrest := eq_or_ne rest []
    · exact .inr ⟨piece, List.mem_cons_self, h⟩
    · rw [joinWith_cons hrest, List.mem_append, List.mem_append] at h
      obtain (h | h) | h := h
      · exact .inr ⟨piece, List.mem_cons_self, h⟩
      · exact .inl h
      · exact (ih h).imp_right fun ⟨p, hp, hx⟩ => ⟨p, List.mem_cons_of_mem _ hp, hx⟩

end Text

namespace Contents
open Character
variable {r : Renderer} {c leaf : Contents} {items : List Contents}

/-! ## Texts one above another -/

/-- Texts from top to bottom, with blank lines between those that are not empty. -/
def paragraphs (texts : List (List Char)) : List Char := Text.joinWith gap (texts.filter (· ≠ []))

/-- A text above another one, with a blank line between them unless one of them is empty. -/
def above (s t : List Char) : List Char :=
  if s = [] then t else if t = [] then s else s ++ gap ++ t

@[simp] theorem nil_above (s : List Char) : above [] s = s := rfl

@[simp] theorem above_nil (s : List Char) : above s [] = s := by
  rw [above]
  split
  · exact (‹s = []›).symm
  · rfl

theorem above_assoc (s t u : List Char) : above (above s t) u = above s (above t u) := by
  unfold above
  by_cases hs : s = [] <;> by_cases ht : t = [] <;> by_cases hu : u = [] <;> simp [hs, ht, hu]

theorem paragraphs_cons (s : List Char) (texts : List (List Char)) :
    paragraphs (s :: texts) = above s (paragraphs texts) := by
  unfold paragraphs above
  by_cases hs : s = []
  · simp [hs]
  · rw [List.filter_cons_of_pos (by simpa using hs), if_neg hs]
    cases hrest : texts.filter (· ≠ []) with
    | nil => rfl
    | cons t more =>
      have ht : t ≠ [] := by
        have hmem : t ∈ texts.filter (· ≠ []) := hrest ▸ List.mem_cons_self
        simpa using (List.mem_filter.mp hmem).2
      have hne : Text.joinWith gap (t :: more) ≠ [] := by
        cases more <;> simp [Text.joinWith, ht]
      rw [Text.joinWith_cons (List.cons_ne_nil t more), if_neg hne]

/-! ## Contents and their leaves -/

mutual
/-- The parts of some contents that are no lists themselves, from left to right. -/
def leaves : Contents → List Contents
  | parts items => leavesOf items
  | c => [c]

/-- The leaves of some contents one after another. -/
def leavesOf : List Contents → List Contents
  | [] => []
  | c :: rest => leaves c ++ leavesOf rest
end

/-- Whether contents are a list. -/
def isParts : Contents → Bool
  | parts _ => true
  | _ => false

/-- What holds of all contents that are no lists, and of each list if it holds of its items, holds
of all contents. -/
@[elab_as_elim]
theorem byParts {P : Contents → Prop} (leaf : ∀ c : Contents, c.isParts = false → P c)
    (parts : ∀ items : List Contents, (∀ c ∈ items, P c) → P (.parts items)) (c : Contents) :
    P c :=
  match c with
  | .parts items => parts items fun c _ => byParts leaf parts c
  | .nothing | .plain _ | .markup _ _ | .code _ _ | .untyped _ | .unshown => leaf _ rfl

theorem leaves_of_not_parts (h : c.isParts = false) : c.leaves = [c] := by
  cases c with
  | parts items => cases h
  | _ => simp [leaves]

theorem leavesOf_eq (items : List Contents) : leavesOf items = items.flatMap leaves := by
  induction items with
  | nil => rfl
  | cons c rest ih => rw [leavesOf, ih, List.flatMap_cons]

theorem leaves_parts (items : List Contents) : (parts items).leaves = items.flatMap leaves := by
  rw [leaves, leavesOf_eq]

/-- A leaf is no list. -/
theorem isParts_of_mem_leaves (h : leaf ∈ c.leaves) : leaf.isParts = false := by
  induction c using byParts with
  | leaf c hc =>
    rw [leaves_of_not_parts hc, List.mem_singleton] at h
    rwa [h]
  | parts items ih =>
    rw [leaves_parts] at h
    obtain ⟨c, hc, hleaf⟩ := List.mem_flatMap.mp h
    exact ih c hc hleaf

theorem areEmpty_iff (items : List Contents) :
    areEmpty items = true ↔ ∀ c ∈ items, c.isEmpty = true := by
  induction items with
  | nil => simp [areEmpty]
  | cons c rest ih => rw [areEmpty, Bool.and_eq_true, ih, List.forall_mem_cons]

/-- Contents count as nothing to see if all their leaves do. -/
theorem isEmpty_iff_leaves (c : Contents) :
    c.isEmpty = true ↔ ∀ leaf ∈ c.leaves, leaf.isEmpty = true := by
  induction c using byParts with
  | leaf c h => rw [leaves_of_not_parts h, List.forall_mem_singleton]
  | parts items ih =>
    rw [isEmpty, areEmpty_iff, leaves_parts, List.forall_mem_flatMap]
    exact forall₂_congr ih

/-! ## What a list of contents shows -/

theorem display_parts_nil (r : Renderer) : display r (parts []) = pure [] := by
  rw [display, displayAll]
  rfl

theorem display_parts_cons (r : Renderer) (c : Contents) (items : List Contents) :
    display r (parts (c :: items)) = do
      let s ← display r c
      let t ← display r (parts items)
      return above s t := by
  simp only [display, displayAll]
  cases display r c with
  | error why => rfl
  | ok s =>
    cases displayAll r items with
    | error why => rfl
    | ok texts => exact congrArg Except.ok (paragraphs_cons s texts)

theorem display_parts_append (r : Renderer) (items more : List Contents) :
    display r (parts (items ++ more)) = do
      let s ← display r (parts items)
      let t ← display r (parts more)
      return above s t := by
  induction items with
  | nil => simp only [List.nil_append, display_parts_nil, pure_bind, nil_above, bind_pure]
  | cons c rest ih =>
    rw [List.cons_append, display_parts_cons, ih, display_parts_cons]
    simp only [bind_assoc, pure_bind, above_assoc]

/-- Contents are shown, or fail to be shown, as the list of their leaves is. -/
theorem display_parts_leaves (r : Renderer) (c : Contents) :
    display r (parts c.leaves) = display r c := by
  induction c using byParts with
  | leaf c h =>
    simp only [leaves_of_not_parts h, display_parts_cons, display_parts_nil, pure_bind, above_nil,
      bind_pure]
  | parts items ih =>
    -- the leaves of the first item, shown as a list, are that item, and so on down the list
    rw [leaves_parts]
    induction items with
    | nil => rfl
    | cons c rest ihrest =>
      rw [List.flatMap_cons, display_parts_append, display_parts_cons, ih c List.mem_cons_self,
        ihrest fun d hd => ih d (List.mem_cons_of_mem _ hd)]

/-- A list whose items can all be shown shows them one above another. -/
theorem display_parts_of_forall {text : Contents → List Char}
    (h : ∀ c ∈ items, display r c = .ok (text c)) :
    display r (parts items) = .ok (paragraphs (items.map text)) := by
  induction items with
  | nil => exact display_parts_nil r
  | cons c rest ih =>
    rw [display_parts_cons, h c List.mem_cons_self,
      ih fun d hd => h d (List.mem_cons_of_mem _ hd), List.map_cons, paragraphs_cons]
    rfl

/-! ## What leaves show -/

/-- Each mapping among some contents that has a value has a text for it. -/
def HoldsTexts (c : Contents) : Prop :=
  ∀ fields v, untyped fields ∈ c.leaves → (Value.mapping fields).field? "value" = some v →
    ∃ s, v = .text s

theorem exists_showMarkup (hr : ∀ s, ∃ t, r.apply s = .ok t) (isMarkdown : Bool) (s : List Char) :
    ∃ t, showMarkup r isMarkdown s = .ok t := by
  rw [showMarkup]
  split
  · exact hr _
  · exact ⟨s, rfl⟩

/-- A leaf shows a marked-up text, in which there is nothing to see if the leaf counts as that. -/
theorem HoldsTexts.exists_markup (hc : c.HoldsTexts) (h : leaf ∈ c.leaves) (r : Renderer) :
    ∃ isMarkdown s, display r leaf = showMarkup r isMarkdown s ∧
      (leaf.isEmpty = true → isBare s = true) := by
  cases leaf with
  | nothing | code | unshown => exact ⟨false, [], by rw [display]; rfl, fun _ => rfl⟩
  | plain s => exact ⟨false, s, by rw [display]; rfl, by rw [isEmpty]; exact id⟩
  | markup kind s => exact ⟨_, s, by rw [display], by rw [isEmpty]; exact id⟩
  | untyped fields =>
    rw [display, isEmpty]
    cases (Value.mapping fields).field? "kind" with
    | none => exact ⟨false, [], rfl, fun _ => rfl⟩
    | some kind =>
      cases hv : (Value.mapping fields).field? "value" with
      | none => exact ⟨_, [], rfl, fun _ => rfl⟩
      | some v =>
        obtain ⟨s, rfl⟩ := hc fields v h hv
        exact ⟨_, s.toList, rfl, id⟩
  | parts items => cases isParts_of_mem_leaves h

/-! ## Main results -/

/-- If the renderer never fails, contents show what their leaves show from left to right, with a
blank line between the texts that are not empty, and count as nothing to see exactly if all leaves
do. So nothing but the leaves matters. -/
theorem display_eq_paragraphs (hr : ∀ s, ∃ t, r.apply s = .ok t) (hc : c.HoldsTexts) :
    (∃ text : Contents → List Char, (∀ leaf ∈ c.leaves, display r leaf = .ok (text leaf)) ∧
        display r c = .ok (Text.joinWith gap ((c.leaves.map text).filter (· ≠ [])))) ∧
      (c.isEmpty = true ↔ ∀ leaf ∈ c.leaves, leaf.isEmpty = true) ∧
      ∀ d : Contents, d.leaves = c.leaves →
        display r d = display r c ∧ d.isEmpty = c.isEmpty := by
  have hshown : ∀ leaf ∈ c.leaves, ∃ s, display r leaf = .ok s := by
    intro leaf hleaf
    obtain ⟨isMarkdown, s, hs, -⟩ := hc.exists_markup hleaf r
    rw [hs]
    exact exists_showMarkup hr isMarkdown s
  refine ⟨?_, isEmpty_iff_leaves c, fun d hd => ⟨?_, ?_⟩⟩
  · choose! text htext using hshown
    refine ⟨text, htext, ?_⟩
    rw [← display_parts_leaves, display_parts_of_forall htext]
    rfl
  · rw [← display_parts_leaves, hd, display_parts_leaves]
  · rw [Bool.eq_iff_iff, isEmpty_iff_leaves, hd, isEmpty_iff_leaves]

/-- A text of Markdown in a pair of brackets. -/
def bracketed : Renderer := some fun s => .ok ('[' :: s ++ [']'])

/-- Lists within lists, some of which show nothing. -/
def nested : Contents :=
  .parts [.parts [.nothing, .plain ['a']], .parts [.parts [], .plain []],
    .parts [.code "c" ['x'], .parts [.untyped [(.text "kind", .text markdown),
      (.text "value", .text " b\n")]]]]

theorem holdsTexts_nested : nested.HoldsTexts := by
  intro fields v h hv
  obtain rfl : fields = [(.text "kind", .text markdown), (.text "value", .text " b\n")] := by
    simpa [nested, leaves, leavesOf] using h
  exact ⟨_, (Option.some.inj hv).symm⟩

theorem display_eq_paragraphs_nested :
    (∀ s, ∃ t, bracketed.apply s = .ok t) ∧ nested.HoldsTexts ∧
      (∃ text : Contents → List Char,
        (∀ leaf ∈ nested.leaves, display bracketed leaf = .ok (text leaf)) ∧
          display bracketed nested =
            .ok (Text.joinWith gap ((nested.leaves.map text).filter (· ≠ [])))) ∧
      display bracketed (.parts nested.leaves) = display bracketed nested ∧
      display bracketed nested = .ok "a\n\n[b]".toList := by
  have hr (s : List Char) : ∃ t, bracketed.apply s = .ok t := ⟨_, rfl⟩
  have hflat : (parts nested.leaves).leaves = nested.leaves := by
    simp [nested, leaves, leavesOf]
  obtain ⟨htext, -, hsame⟩ := display_eq_paragraphs hr holdsTexts_nested
  exact ⟨hr, holdsTexts_nested, htext, (hsame _ hflat).1, by cbv⟩

/-- Contents that count as nothing to see can be shown, and what is shown of them is white space and
backticks, where Markdown is shown as it is. -/
theorem bare_of_isEmpty (hr : ∀ s, r.apply s = .ok s) (hc : c.HoldsTexts)
    (h : c.isEmpty = true) :
    ∃ s, display r c = .ok s ∧ ∀ x ∈ s, isBlank x = true ∨ x = '\x60' := by
  have hshown : ∀ leaf ∈ c.leaves, ∃ s, display r leaf = .ok s ∧ isBare s = true := by
    intro leaf hleaf
    obtain ⟨isMarkdown, s, hs, hbare⟩ := hc.exists_markup hleaf r
    obtain ⟨t, ht, hkept⟩ := exists_bare_showMarkup hr isMarkdown s
    exact ⟨t, hs.trans ht, hkept (hbare ((isEmpty_iff_leaves c).mp h leaf hleaf))⟩
  choose! text htext hbare using hshown
  have hdisplay := (display_parts_leaves r c).symm.trans (display_parts_of_forall htext)
  refine ⟨_, hdisplay, fun x hx => ?_⟩
  -- a character of the whole stands in a gap, which is blank, or in the text of a leaf
  obtain hgap | ⟨piece, hpiece, hx⟩ := Text.mem_joinWith hx
  · obtain rfl : x = '\n' := by simpa [gap] using hgap
    exact .inl (by decide)
  · obtain ⟨leaf, hleaf, rfl⟩ := List.mem_map.mp (List.mem_of_mem_filter hpiece)
    exact isBare_iff.mp (hbare leaf hleaf) x hx

/-- White space, backticks and a block that holds nothing, in lists. -/
def blank : Contents :=
  .parts [.plain " \x60".toList, .parts [.nothing, .markup markdown "\n```\n``` `".toList]]

theorem holdsTexts_blank : blank.HoldsTexts := by
  intro fields v h hv
  simp [blank, leaves, leavesOf] at h

theorem bare_of_isEmpty_blank :
    (∀ s, Renderer.apply none s = .ok s) ∧ blank.HoldsTexts ∧ blank.isEmpty = true ∧
      ∃ s, display none blank = .ok s ∧ ∀ x ∈ s, isBlank x = true ∨ x = '\x60' := by
  have hr (s : List Char) : Renderer.apply none s = .ok s := rfl
  have hempty : blank.isEmpty = true := by decide
  exact ⟨hr, holdsTexts_blank, hempty, bare_of_isEmpty hr holdsTexts_blank hempty⟩

end Contents
end EditorLink
