import EditorLink.Completion.Ranking
import EditorLink.Proofs.Sorting
import Mathlib.Data.String.Basic

/-!
# Ranking as one sort

Items are ranked in two passes. Because each of them keeps the order of equal items, they are one
sort by one key: keyword arguments come before all else where the language has them, then what
begins with the token, then what has the smaller sort key, and what the server sent first.
-/
namespace EditorLink.Completion
open Character
variable {token : Option (List Char)} {language : String} {items : List CompletionItem}

/-! ## What is kept, and what it is ranked by -/

/-- Whether a text is a word, or a word with a newline behind it. -/
def isWordLine (s : List Char) : Bool :=
  s ≠ [] ∧ s.all isWord ∨ s.getLast? = some '\n' ∧ s.dropLast ≠ [] ∧ s.dropLast.all isWord

/-- Whether an item begins with a token, regardless of case. It begins with its filter text, or
with its label if it has none. -/
def begins (token : List Char) (item : CompletionItem) : Bool :=
  (lowercase token).isPrefixOf (lowercase (item.filterText.getD item.label).toList)

/-- Whether an item is kept for the token before the cursor. Without a token all items are, and so
they are for one that is no word. -/
def passes (token : Option (List Char)) (item : CompletionItem) : Bool :=
  token.getD [] = [] || !isWordLine (lowercase (token.getD [])) || begins (token.getD []) item

/-- What items are ranked by; false comes before true. The last part is the sort text of an item,
or its label if it has none. -/
def rankKey (token : Option (List Char)) (language : String) (item : CompletionItem) :
    Bool ×ₗ Bool ×ₗ String :=
  let sortText := item.sortText.getD item.label
  toLex (language = "python" ∧ item.label.toList.getLast? ≠ some '=',
    toLex (token.getD [] ≠ [] ∧ ¬ token.getD [] <+: sortText.toList, sortText))

/-! ## The parts of the key in the passes -/

theorem isWord_newline : isWord '\n' = false := by decide +kernel

theorem isWordToken_eq (s : List Char) : isWordToken s = isWordLine s := by
  rw [isWordToken, isWordLine]
  by_cases hlast : s.getLast? = some '\n'
  · -- a text that ends with a newline is no word itself
    have hnone : s.all isWord = false :=
      List.all_eq_false.mpr ⟨'\n', List.mem_of_getLast? hlast, by simp [isWord_newline]⟩
    rw [if_pos hlast, hnone, Bool.eq_iff_iff]
    simp [hlast]
  · rw [if_neg hlast, Bool.eq_iff_iff]
    simp [hlast]

theorem fits_eq (typed : List Char) (item : CompletionItem) :
    fits typed item = (!isWordLine (lowercase typed) || begins typed item) := by
  rw [fits, isWordToken_eq]
  rfl

/-- Whether keyword arguments come before an item. -/
def afterKeywords (language : String) (item : CompletionItem) : Bool :=
  language = keywordLanguage && !isKeywordArgument item

/-- Whether the items that begin with the token come before an item. -/
def afterToken (token : Option (List Char)) (item : CompletionItem) : Bool :=
  token.getD [] ≠ [] && !leads (token.getD []) item

/-- The key of a ranked item is made of what the passes look at. -/
theorem rankKey_eq (token : Option (List Char)) (language : String) (item : CompletionItem) :
    rankKey token language item =
      toLex (afterKeywords language item, toLex (afterToken token item, item.sortKey)) := by
  have hkeywords : afterKeywords language item =
      decide (language = "python" ∧ item.label.toList.getLast? ≠ some '=') := by
    rw [afterKeywords, isKeywordArgument, ← decide_not, ← Bool.decide_and]
    rfl
  have htoken : afterToken token item = decide (token.getD [] ≠ [] ∧
      ¬ token.getD [] <+: (item.sortText.getD item.label).toList) := by
    rw [Bool.eq_iff_iff]
    simp [afterToken, leads, CompletionItem.sortKey, ← List.isPrefixOf_iff_prefix]
  rw [hkeywords, htoken]
  rfl

/-! ## The orders of the passes -/

theorem keyOrder_eq (a b : CompletionItem) : keyOrder a b = decide (a.sortKey ≤ b.sortKey) := by
  rw [keyOrder, ← decide_not]
  exact decide_eq_decide.mpr not_lt

theorem tokenOrder_eq (typed : List Char) (a b : CompletionItem) :
    tokenOrder typed a b =
      decide (toLex (!leads typed a, a.sortKey) ≤ toLex (!leads typed b, b.sortKey)) := by
  rw [tokenOrder, keyOrder_eq]
  simp only [Prod.Lex.toLex_le_toLex]
  cases leads typed a <;> cases leads typed b <;> simp

theorem trueFirst_eq (a b : Bool) : trueFirst a b = decide ((!a) ≤ (!b)) := by
  cases a <;> cases b <;> rfl

/-! ## The passes -/

/-- The first pass sorts what is kept by the token and the sort key. -/
theorem sortedStably_firstPass (token : Option (List Char)) (items : List CompletionItem) :
    SortedStably (fun item => toLex (afterToken token item, item.sortKey))
      (items.filter (passes token))
      (if token.getD [] = [] then items.mergeSort keyOrder
        else (items.filter (fits (token.getD []))).mergeSort (tokenOrder (token.getD []))) := by
  by_cases htyped : token.getD [] = []
  · have hkept : items.filter (passes token) = items :=
      List.filter_eq_self.mpr fun item _ => by simp [passes, htyped]
    have hkey (a b : CompletionItem) : a.sortKey ≤ b.sortKey ↔
        toLex (afterToken token a, a.sortKey) ≤ toLex (afterToken token b, b.sortKey) := by
      simp [afterToken, htyped, Prod.Lex.toLex_le_toLex]
    have hsort : items.mergeSort keyOrder = sortBy CompletionItem.sortKey items := by
      rw [sortBy, funext₂ keyOrder_eq]
    rw [if_pos htyped, hkept, hsort, sortBy_congr hkey]
    exact sortedStably_sortBy _ _
  · have hkept : passes token = fits (token.getD []) := by
      funext item
      simp [passes, htyped, fits_eq]
    have hkey (item : CompletionItem) : afterToken token item = !leads (token.getD []) item := by
      simp [afterToken, htyped]
    rw [if_neg htyped, hkept, funext₂ (tokenOrder_eq (token.getD []))]
    simp only [hkey]
    exact sortedStably_sortBy _ _

/-- The second pass moves keyword arguments to the front where the language has them. -/
theorem sortedStably_secondPass (language : String) (sorted : List CompletionItem) :
    SortedStably (afterKeywords language) sorted
      (if language = keywordLanguage then
        sorted.mergeSort fun a b => trueFirst (isKeywordArgument a) (isKeywordArgument b)
      else sorted) := by
  by_cases hl : language = keywordLanguage
  · have hkey : afterKeywords language = fun item => !isKeywordArgument item := by
      funext item
      simp [afterKeywords, hl]
    simp only [if_pos hl, hkey, trueFirst_eq]
    exact sortedStably_sortBy _ _
  · have hkey : afterKeywords language = fun _ => false := by
      funext item
      simp [afterKeywords, hl]
    rw [if_neg hl, hkey]
    exact ⟨.refl _, List.pairwise_of_forall fun _ _ => le_refl _, fun _ => rfl⟩

theorem sortedStably_rank (items : List CompletionItem) (token : Option (List Char))
    (language : String) :
    SortedStably (rankKey token language) (items.filter (passes token))
      (rank items token language) := by
  rw [funext (rankKey_eq token language)]
  exact (sortedStably_firstPass token items).trans (sortedStably_secondPass language _)

/-- Ranking gives the items that are kept, each of them once, in the stable order of one key. -/
theorem rank_eq_sortBy (items : List CompletionItem) (token : Option (List Char))
    (language : String) :
    rank items token language = sortBy (rankKey token language) (items.filter (passes token)) ∧
      SortedStably (rankKey token language) (items.filter (passes token))
        (rank items token language) :=
  ⟨(sortedStably_rank items token language).eq_sortBy, sortedStably_rank items token language⟩

/-- An item with a label alone. -/
def labelled (label : String) : CompletionItem :=
  { label, sortText := none, filterText := none, insertText := none, isSnippet := false,
    documentation := .nothing, textEdit := none, additionalEdits := [], payload := .null }

/-- Items of Python, of which one is dropped for a token and two are sorted by one text. -/
def keywordItems : List CompletionItem :=
  [{ labelled "foo" with sortText := some "zz" }, labelled "fob", labelled "baz",
    { labelled "fox=" with sortText := some "a" },
    { labelled "bar" with sortText := some "fob", filterText := some "Fort" }, labelled "foo="]

/-- Keyword arguments lead, and of them the one that begins with the token. An item with a sort text
is not placed by its label, and items of one key stay in the order of the server. -/
theorem rank_eq_sortBy_keywords :
    (keywordItems.filter (passes (some "fo".toList))).map CompletionItem.label =
        ["foo", "fob", "fox=", "bar", "foo="] ∧
      (rank keywordItems (some "fo".toList) "python").map CompletionItem.label =
        ["foo=", "fox=", "fob", "bar", "foo"] ∧
      SortedStably (rankKey (some "fo".toList) "python")
        (keywordItems.filter (passes (some "fo".toList)))
        (rank keywordItems (some "fo".toList) "python") := by
  obtain ⟨hsort, hstable⟩ := rank_eq_sortBy keywordItems (some "fo".toList) "python"
  refine ⟨by decide +kernel, ?_, hstable⟩
  rw [hsort, sortBy_eq_insertionSort]
  decide +kernel

end EditorLink.Completion
