import EditorLink.Completion.Documentation
import EditorLink.Proofs.Contents.Bare

/-!
# The documentation that asking brings

The documentation of an item should be what asking brought, if there is anything to see in it, and
else what the item carries itself, and it should be shown unless its text has nothing to see in it.
Two things stand against that. Marked-up text takes the place of the item's own documentation also
where it is empty, because it is there. And Markdown is judged as it came, so that empty code blocks
with a language count as something to see, and the empty text that is left of them is shown.
-/
namespace EditorLink
open Character

namespace Contents
variable {c : Contents}

/-- Contents that documentation can be. -/
inductive IsDocumentation : Contents → Prop where
  | nothing : IsDocumentation .nothing
  | plain (text : List Char) : IsDocumentation (.plain text)
  | markup (kind : String) (text : List Char) : IsDocumentation (.markup kind text)

/-- The text that shows contents is white space and backticks, where Markdown is shown as it is. -/
def ShowsNothing (c : Contents) : Prop :=
  ∃ text, c.display none = .ok text ∧ ∀ x ∈ text, isBlank x = true ∨ x = '\x60'

theorem showsNothing_iff :
    c.ShowsNothing ↔ ∃ text, c.display none = .ok text ∧ isBare text = true := by
  simp only [ShowsNothing, isBare_iff]

/-- Contents count as something to see, and their text has nothing to see in it. -/
def Fades (c : Contents) : Prop := c.isEmpty = false ∧ c.ShowsNothing

/-- Documentation can be shown, and if it counts as nothing to see, its text has none in it. -/
theorem IsDocumentation.exists_display (h : c.IsDocumentation) :
    ∃ text, c.display none = .ok text ∧ (c.isEmpty = true → isBare text = true) := by
  cases h with
  | nothing => exact ⟨[], by simp [display], fun _ => rfl⟩
  | plain text => exact ⟨text, by simp [display], by simp [isEmpty]⟩
  | markup kind text =>
    rw [display, isEmpty]
    exact exists_bare_showMarkup (fun _ => rfl) _ text

/-- What counts as something to see is there. -/
theorem IsDocumentation.isPresent (h : c.IsDocumentation) (hc : c.isEmpty = false) :
    c.isPresent = true := by
  cases h with
  | nothing => simp [isEmpty] at hc
  | plain text =>
    have hne : text ≠ [] := by
      rintro rfl
      simp [isEmpty, isBare] at hc
    simpa [Contents.isPresent] using hne
  | markup kind text => rfl

end Contents

namespace Completion
open Contents

/-- What asking for an item brought, if anything. -/
def answer? : Option (Except Failure (Option CompletionItem)) → Option CompletionItem
  | some (.ok resolved) => resolved
  | _ => none

/-- The documentation to go by: what asking brought, if there is anything to see in it, and else
what the item carries itself. -/
def bestDocumentation (item : CompletionItem)
    (ask : Option (Except Failure (Option CompletionItem))) : Contents :=
  match answer? ask with
  | some resolved =>
    if resolved.documentation.isEmpty then item.documentation else resolved.documentation
  | none => item.documentation

/-- The text that shows contents, unless it is white space and backticks. -/
def worthwhile (c : Contents) : Except Failure (Option (List Char)) :=
  (c.display none).map fun text =>
    if text.all fun x => isBlank x || x = '\x60' then none else some text

/-- Asking has brought documentation that is there but counts as nothing to see. -/
def Blanks (ask : Option (Except Failure (Option CompletionItem))) : Prop :=
  ∃ resolved, answer? ask = some resolved ∧ resolved.documentation.isPresent = true ∧
    resolved.documentation.isEmpty = true

theorem worthwhile_eq (c : Contents) :
    worthwhile c = (c.display none).map fun text => if isBare text then none else some text := rfl

section
variable {item : CompletionItem} {ask : Option (Except Failure (Option CompletionItem))}

theorem documentation_eq (item : CompletionItem)
    (ask : Option (Except Failure (Option CompletionItem))) (r : Renderer) :
    documentation item ask r = displayDocumentation (chooseDocumentation item (answer? ask)) r := by
  unfold documentation answer?
  cases ask with
  | none => rfl
  | some outcome => cases outcome <;> rfl

theorem displayDocumentation_of_isEmpty {c : Contents} (h : c.isEmpty = true) (r : Renderer) :
    displayDocumentation c r = .ok none := by
  simp [displayDocumentation, h]

theorem displayDocumentation_of_not_isEmpty {c : Contents} (hc : c.IsDocumentation)
    (h : c.isEmpty = false) (r : Renderer) :
    displayDocumentation c r = (c.display r).map some := by
  simp [displayDocumentation, h, hc.isPresent h]

/-- Documentation is shown if its text has something to see in it, unless it fades. -/
theorem displayDocumentation_eq_iff {c : Contents} (hc : c.IsDocumentation) :
    displayDocumentation c none = worthwhile c ↔ ¬ c.Fades := by
  obtain ⟨text, htext, hbare⟩ := hc.exists_display
  rw [worthwhile_eq, Fades, showsNothing_iff, htext]
  cases hempty : c.isEmpty with
  | true => simp [displayDocumentation_of_isEmpty hempty, hbare hempty, Except.map]
  | false =>
    rw [displayDocumentation_of_not_isEmpty hc hempty, htext]
    cases isBare text <;> simp [Except.map]

/-- Nothing is shown in place of contents that show nothing. -/
theorem worthwhile_eq_none_iff {c : Contents} : worthwhile c = .ok none ↔ c.ShowsNothing := by
  rw [worthwhile_eq, showsNothing_iff]
  cases c.display none with
  | error why => simp [Except.map]
  | ok text => cases hb : isBare text <;> simp [Except.map, hb]

/-- An answer that is empty but there takes the place of what the item carries. -/
theorem documentation_of_blanks (h : Blanks ask) (r : Renderer) :
    documentation item ask r = .ok none ∧ bestDocumentation item ask = item.documentation := by
  obtain ⟨resolved, hanswer, hpresent, hempty⟩ := h
  rw [documentation_eq, bestDocumentation, hanswer]
  dsimp only [chooseDocumentation]
  rw [if_pos hpresent, if_pos hempty]
  exact ⟨displayDocumentation_of_isEmpty hempty r, rfl⟩

/-- In all other cases the documentation to go by is chosen. -/
theorem chooseDocumentation_eq
    (answered : ∀ resolved, answer? ask = some resolved → resolved.documentation.IsDocumentation)
    (h : ¬ Blanks ask) :
    chooseDocumentation item (answer? ask) = bestDocumentation item ask := by
  unfold bestDocumentation chooseDocumentation
  cases hanswer : answer? ask with
  | none => rfl
  | some resolved =>
    dsimp only
    cases hempty : resolved.documentation.isEmpty with
    | true =>
      have habsent : ¬ resolved.documentation.isPresent = true :=
        fun hpresent => h ⟨resolved, hanswer, hpresent, hempty⟩
      rw [if_neg habsent, if_pos rfl]
    | false =>
      rw [if_pos ((answered resolved hanswer).isPresent hempty), if_neg Bool.false_ne_true]

theorem isDocumentation_best (own : item.documentation.IsDocumentation)
    (answered : ∀ resolved, answer? ask = some resolved → resolved.documentation.IsDocumentation) :
    (bestDocumentation item ask).IsDocumentation := by
  unfold bestDocumentation
  split
  · split
    · exact own
    · exact answered _ ‹_›
  · exact own

/-- However asking for an item ends, its documentation is shown or left out. It is that to go by,
and left out if and only if its text has nothing to see in it, in exactly these cases: asking has
brought nothing that blanks the item's own documentation, or there is nothing to see in that; and
without such an answer, the documentation to go by does not fade. -/
theorem documentation_eq_best_iff (own : item.documentation.IsDocumentation)
    (answered : ∀ resolved, answer? ask = some resolved → resolved.documentation.IsDocumentation) :
    (∃ shown, documentation item ask none = .ok shown) ∧
      (documentation item ask none = worthwhile (bestDocumentation item ask) ↔
        (Blanks ask → item.documentation.ShowsNothing) ∧
          (¬ Blanks ask → ¬ (bestDocumentation item ask).Fades)) := by
  by_cases h : Blanks ask
  · obtain ⟨hnone, hbest⟩ : documentation item ask none = .ok none ∧
        bestDocumentation item ask = item.documentation := documentation_of_blanks h none
    refine ⟨⟨none, hnone⟩, ?_⟩
    rw [hnone, hbest, eq_comm, worthwhile_eq_none_iff]
    simp [h]
  · have hbest := isDocumentation_best own answered
    rw [documentation_eq, chooseDocumentation_eq answered h, displayDocumentation_eq_iff hbest]
    refine ⟨?_, by simp [h]⟩
    obtain ⟨text, htext, -⟩ := hbest.exists_display
    cases hempty : (bestDocumentation item ask).isEmpty with
    | true => exact ⟨none, displayDocumentation_of_isEmpty hempty none⟩
    | false =>
      refine ⟨some text, ?_⟩
      rw [displayDocumentation_of_not_isEmpty hbest hempty, htext]
      rfl

end

/-- An item with documentation of its own. -/
def documented (c : Contents) : CompletionItem :=
  { label := "a", sortText := none, filterText := none, insertText := none, isSnippet := false,
    documentation := c, textEdit := none, additionalEdits := [], payload := .null }

/-- An answer with an empty text does not blank what the item carries, Markdown around an empty
block does not fade, and a text of white space and backticks is left out. -/
theorem documentation_eq_best_markdown :
    documentation (documented (.markup markdown " *b*\n```\n```".toList))
        (some (.ok (some (documented (.plain []))))) none =
      worthwhile (bestDocumentation (documented (.markup markdown " *b*\n```\n```".toList))
        (some (.ok (some (documented (.plain [])))))) ∧
      worthwhile (bestDocumentation (documented (.markup markdown " *b*\n```\n```".toList))
        (some (.ok (some (documented (.plain [])))))) = .ok (some "*b*\n".toList) ∧
      documentation (documented (.plain "\n\x60".toList)) (some (.ok none)) none = .ok none := by
  have own :
      (documented (.markup markdown " *b*\n```\n```".toList)).documentation.IsDocumentation :=
    .markup _ _
  have answered : ∀ resolved, answer? (some (.ok (some (documented (.plain []))))) = some resolved →
      resolved.documentation.IsDocumentation := by
    rintro _ ⟨⟩
    exact .plain _
  have hbest : worthwhile (bestDocumentation (documented (.markup markdown " *b*\n```\n```".toList))
      (some (.ok (some (documented (.plain [])))))) = .ok (some "*b*\n".toList) := by cbv
  refine ⟨(documentation_eq_best_iff own answered).2.mpr ⟨?_, fun _ hfades => ?_⟩, hbest, rfl⟩
  · rintro ⟨_, ⟨⟩, hpresent, -⟩
    cases hpresent
  · cases hbest.symm.trans (worthwhile_eq_none_iff.mpr hfades.2)

/-- An empty marked-up text blanks the documentation that an item carries, and of an empty block
with a language the empty text is shown. -/
theorem documentation_ne_best :
    (documentation (documented (.plain ['b']))
        (some (.ok (some (documented (.markup markdown []))))) none = .ok none ∧
      worthwhile (bestDocumentation (documented (.plain ['b']))
        (some (.ok (some (documented (.markup markdown [])))))) = .ok (some ['b'])) ∧
      documentation (documented (.markup markdown "```c\n```".toList)) none none = .ok (some []) ∧
        worthwhile (bestDocumentation (documented (.markup markdown "```c\n```".toList)) none) =
          .ok none := by
  exact ⟨⟨rfl, rfl⟩, by cbv, by cbv⟩

end Completion
end EditorLink
