import EditorLink.Proofs.Character.Lowering
import EditorLink.Proofs.Completion.Ranking

/-!
# What a token keeps

A token of word characters keeps the items that begin with it, whatever the case, and any other
token keeps all items. Whether a token is a word is asked of its lower case, and of one that ends
with a newline, of what is before that. So two kinds of tokens are taken for what they are not:
words with a dotted capital I, whose lower case has a combining mark, and words that are followed
by a newline.
-/
namespace EditorLink.Completion
open Character
variable {token s t : List Char}

/-! ## Which tokens are taken for words -/

theorem all_staysWord : s.all staysWord = true ↔ s.all isWord = true ∧ 'İ' ∉ s := by
  simp only [List.all_eq_true, staysWord, Bool.and_eq_true, decide_eq_true_eq]
  constructor
  · intro h
    exact ⟨fun c hc => (h c hc).1, fun hdotted => (h _ hdotted).2 rfl⟩
  · rintro ⟨hall, hdotted⟩ c hc
    exact ⟨hall c hc, fun heq => hdotted (heq ▸ hc)⟩

theorem isWordToken_append_newline (s : List Char) :
    isWordToken (s ++ ['\n']) = (!s.isEmpty && s.all isWord) := by
  simp [isWordToken]

theorem isWordToken_append (s : List Char) (hne : t ≠ []) (h : '\n' ∉ t) :
    isWordToken (s ++ t) = (s ++ t).all isWord := by
  have hlast : (s ++ t).getLast? ≠ some '\n' := by
    rw [List.getLast?_append_of_ne_nil _ hne]
    exact fun hlast => h (List.mem_of_getLast? hlast)
  rw [isWordToken, if_neg hlast]
  simp [hne]

/-- Before a newline, what is taken for a word is a text whose characters stay word characters. -/
theorem isWordToken_lowercase_newline (s : List Char) :
    isWordToken (lowercase (s ++ ['\n'])) = (!s.isEmpty && s.all staysWord) := by
  obtain ⟨t, around, ht, hword, hnil⟩ := exists_lowercaseFrom_concat [] s '\n'
  have hempty : t.isEmpty = s.isEmpty := by
    rw [Bool.eq_iff_iff, List.isEmpty_iff, List.isEmpty_iff, hnil]
  rw [lowercase, ht, lowerAt_newline, isWordToken_append_newline, hempty, hword]

/-- So it is without a newline at the end. -/
theorem isWordToken_lowercase_concat (s : List Char) {c : Char} (hc : c ≠ '\n') :
    isWordToken (lowercase (s ++ [c])) = (s ++ [c]).all staysWord := by
  obtain ⟨t, around, ht, hword, -⟩ := exists_lowercaseFrom_concat [] s c
  rw [lowercase, ht, isWordToken_append t (lowerAt_ne_nil _ _ _) (not_mem_lowerAt hc),
    List.all_append, List.all_append, hword, all_isWord_lowerAt, List.all_cons, List.all_nil,
    Bool.and_true]

/-- A token that is a word but not taken for one, or taken for a word but none. -/
def Misread (token : List Char) : Prop :=
  (token.all isWord = true ∧ 'İ' ∈ token) ∨
    ∃ word, word ≠ [] ∧ word.all isWord = true ∧ 'İ' ∉ word ∧ token = word ++ ['\n']

theorem misread_iff (h : token ≠ []) :
    Misread token ↔ isWordToken (lowercase token) ≠ token.all isWord := by
  obtain ⟨s, c, rfl⟩ := (List.eq_nil_or_concat' token).resolve_left h
  by_cases hc : c = '\n'
  · -- no word ends with a newline
    have hnone : (s ++ [c]).all isWord = false := by simp [hc, isWord_newline]
    have hword : (∃ word, word ≠ [] ∧ word.all isWord = true ∧ 'İ' ∉ word ∧
        s ++ [c] = word ++ ['\n']) ↔ s ≠ [] ∧ s.all isWord = true ∧ 'İ' ∉ s := by
      constructor
      · rintro ⟨word, hne, hall, hdotted, heq⟩
        obtain ⟨rfl, -⟩ := List.append_inj' heq rfl
        exact ⟨hne, hall, hdotted⟩
      · rintro ⟨hne, hall, hdotted⟩
        exact ⟨s, hne, hall, hdotted, by rw [hc]⟩
    rw [Misread, hword, hnone, hc, isWordToken_lowercase_newline, ← all_staysWord]
    simp
  · have hword : ¬ ∃ word, word ≠ [] ∧ word.all isWord = true ∧ 'İ' ∉ word ∧
        s ++ [c] = word ++ ['\n'] := by
      rintro ⟨word, -, -, -, heq⟩
      exact hc (List.cons.inj (List.append_inj' heq rfl).2).1
    rw [Misread, or_iff_left hword, isWordToken_lowercase_concat s hc]
    refine Iff.trans ?_ (not_congr Bool.eq_iff_iff.symm)
    rw [all_staysWord]
    tauto

/-! ## Which items are kept -/

/-- Whether an item begins with a token, where the token is a word. -/
def suits (token : List Char) (item : CompletionItem) : Bool :=
  !token.all isWord || begins token item

/-- Conditions of which one admits all entries keep the same if and only if the other one does. -/
theorem filter_perm_iff {α : Type} (p : α → Bool) (a b : Bool) (l : List α) :
    (l.filter fun x => !a || p x).Perm (l.filter fun x => !b || p x) ↔
      (a ≠ b → ∀ x ∈ l, p x = true) := by
  have hwhole : (l.filter p).Perm l ↔ ∀ x ∈ l, p x = true := by
    rw [← List.filter_eq_self]
    exact ⟨fun h => List.filter_sublist.eq_of_length h.length_eq, fun h => .of_eq h⟩
  cases a <;> cases b <;> simp only [Bool.not_false, Bool.not_true, Bool.true_or, Bool.false_or,
    List.filter_true, ne_eq, not_true_eq_false, reduceCtorEq, not_false_eq_true, forall_const,
    false_implies, List.Perm.refl, hwhole]
  exact (List.perm_comm).trans hwhole

/-- Ranking for a token keeps the items that begin with it, if it is a word, and all items
otherwise, unless the token is taken for what it is not; then it does so if and only if all items
begin with the token anyway. -/
theorem kept_for_token_iff (items : List CompletionItem) (h : token ≠ []) (language : String) :
    (rank items (some token) language).Perm (items.filter (suits token)) ↔
      (Misread token → ∀ item ∈ items, begins token item = true) := by
  have hrank : (rank items (some token) language).Perm
      (items.filter fun item => !isWordToken (lowercase token) || begins token item) := by
    have hkept : passes (some token) = fun item =>
        !isWordToken (lowercase token) || begins token item := by
      funext item
      simp [passes, h, isWordToken_eq]
    rw [← hkept]
    exact (sortedStably_rank items (some token) language).perm
  rw [misread_iff h, ← filter_perm_iff (begins token)]
  exact ⟨hrank.symm.trans, hrank.trans⟩

/-- Items of which two begin with a word: one by its label and one by its filter text. -/
def filterable : List CompletionItem :=
  [labelled "bar", labelled "Foo=", { labelled "food" with filterText := some "drink" },
    { labelled "baz" with filterText := some "FOX" }]

/-- A word keeps what begins with it, written in other letters. -/
theorem kept_for_token_word : "fO".toList ≠ [] ∧ ¬ Misread "fO".toList ∧
    (filterable.filter (suits "fO".toList)).map CompletionItem.label = ["Foo=", "baz"] ∧
    (rank filterable (some "fO".toList) "c").map CompletionItem.label = ["Foo=", "baz"] ∧
    (rank filterable (some "fO".toList) "c").Perm (filterable.filter (suits "fO".toList)) := by
  have hread : ¬ Misread "fO".toList := (misread_iff (by decide)).not.mpr (by decide +kernel)
  have hranked : (rank filterable (some "fO".toList) "c").map CompletionItem.label =
      ["Foo=", "baz"] := by
    rw [(sortedStably_rank filterable (some "fO".toList) "c").eq_sortBy, sortBy_eq_insertionSort]
    decide +kernel
  exact ⟨by decide, hread, by decide +kernel, hranked,
    (kept_for_token_iff _ (by decide) "c").mpr fun h => (hread h).elim⟩

/-- A word that is a dotted capital I keeps what does not begin with it, and no word, for it ends
with a newline, drops an item. -/
theorem not_kept_for_token_dotted :
    ['İ'].all isWord = true ∧ begins ['İ'] (labelled "b") = false ∧
      ¬ (rank [labelled "b"] (some ['İ']) "python").Perm ([labelled "b"].filter (suits ['İ'])) ∧
      "a\n".toList.all isWord = false ∧
      ¬ (rank [labelled "b"] (some "a\n".toList) "python").Perm
        ([labelled "b"].filter (suits "a\n".toList)) :=
  ⟨by decide +kernel, by decide +kernel, fun h => absurd h.length_eq (by decide +kernel),
    by decide +kernel, fun h => absurd h.length_eq (by decide +kernel)⟩

end EditorLink.Completion
