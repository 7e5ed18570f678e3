import EditorLink.Completion.Overlap
import Mathlib.Data.List.Infix

/-!
# The common prefix of texts

The characters of a shortest text are taken as long as all texts agree. What is taken is the longest
text with which all of them begin, and no text is asked for a character behind its end.
-/
namespace EditorLink.Completion
variable {texts : List (List Char)}

/-- The longest text with which all of some texts begin; nothing, if there are none. -/
structure LongestCommonPrefix (texts : List (List Char)) (common : List Char) : Prop where
  prefix_all : ∀ t ∈ texts, common <+: t
  longest : texts ≠ [] → ∀ other, (∀ t ∈ texts, other <+: t) → other <+: common
  of_nil : texts = [] → common = []

theorem shortest_mem (h : texts ≠ []) : shortest texts ∈ texts := by
  fun_induction shortest texts with
  | case1 => exact absurd rfl h
  | case2 s => simp
  | case3 s rest _ other _ => simp
  | case4 s rest hne other _ ih => exact List.mem_cons_of_mem _ (ih hne)

theorem length_shortest_le {t : List Char} (ht : t ∈ texts) :
    (shortest texts).length ≤ t.length := by
  fun_induction shortest texts with
  | case1 => simp at ht
  | case2 s => simp_all
  | case3 s rest _ other hle ih =>
    obtain rfl | ht := List.mem_cons.mp ht
    · exact Nat.le_refl _
    · exact hle.trans (ih ht)
  | case4 s rest _ other hlt ih =>
    obtain rfl | ht := List.mem_cons.mp ht
    · omega
    · exact ih ht

/-- What is taken of a text from an index on: all texts agree on it, and on no more of the text. -/
theorem agreement_spec (texts : List (List Char)) (i : Nat) (rest : List Char) :
    agreement texts i rest <+: rest ∧
      (∀ t ∈ texts, ∀ j < (agreement texts i rest).length,
        t[i + j]? = (agreement texts i rest)[j]?) ∧
      (agreement texts i rest = rest ∨ ∃ c, rest[(agreement texts i rest).length]? = some c ∧
        ∃ t ∈ texts, t[i + (agreement texts i rest).length]? ≠ some c) := by
  fun_induction agreement texts i rest with
  | case1 i => simp
  | case2 i c rest hall ih =>
    obtain ⟨hbegins, hagree, hend⟩ := ih
    have hindex (j : Nat) : i + (j + 1) = i + 1 + j := by omega
    refine ⟨by simpa using hbegins, fun t ht j hj => ?_, ?_⟩
    · cases j with
      | zero => simpa using List.all_eq_true.mp hall t ht
      | succ j =>
        rw [hindex, List.getElem?_cons_succ]
        exact hagree t ht j (by simpa using hj)
    · obtain hend | ⟨e, he, t, ht, hte⟩ := hend
      · exact .inl (by rw [hend])
      · rw [List.length_cons]
        exact .inr ⟨e, by simpa using he, t, ht, hindex _ ▸ hte⟩
  | case3 i c rest hall =>
    exact ⟨by simp, by simp, .inr ⟨c, by simp, by simpa using hall⟩⟩

/-- The texts are compared up to where the first of them differs from a shortest one. -/
theorem longestCommonPrefix_commonPrefix (texts : List (List Char)) :
    LongestCommonPrefix texts (commonPrefix texts) := by
  obtain ⟨hbegins, hagree, hend⟩ := agreement_spec texts 0 (shortest texts)
  rw [← commonPrefix] at hbegins hagree hend
  simp only [Nat.zero_add] at hagree hend
  have hall : ∀ t ∈ texts, commonPrefix texts <+: t := by
    intro t ht
    rw [List.prefix_iff_getElem?]
    intro j hj
    rw [hagree t ht j hj, List.getElem?_eq_getElem hj]
  refine ⟨hall, fun hne other hother => ?_, fun hnil => ?_⟩
  · have hs := hother _ (shortest_mem hne)
    refine List.prefix_of_prefix_length_le hs hbegins ?_
    by_contra hlt
    have hlen : (commonPrefix texts).length < other.length := by omega
    obtain hend | ⟨c, hc, t, ht, htc⟩ := hend
    · rw [hend] at hlen
      exact absurd hs.length_le (by omega)
    · rw [List.prefix_iff_getElem?.mp hs _ hlen] at hc
      exact htc ((List.prefix_iff_getElem?.mp (hother t ht) _ hlen).trans hc)
  · subst hnil
    rfl

/-- Two lists with the same texts have the same longest common prefix. -/
theorem LongestCommonPrefix.eq_of_same {others : List (List Char)} {common common' : List Char}
    (h : LongestCommonPrefix texts common) (h' : LongestCommonPrefix others common')
    (hsame : ∀ t, t ∈ others ↔ t ∈ texts) : common' = common := by
  by_cases hnil : texts = []
  · have hnil' : others = [] := by
      rw [List.eq_nil_iff_forall_not_mem]
      intro t ht
      simp only [hnil, List.not_mem_nil, iff_false] at hsame
      exact hsame t ht
    rw [h.of_nil hnil, h'.of_nil hnil']
  · have hne : others ≠ [] := by
      obtain ⟨t, ht⟩ := List.exists_mem_of_ne_nil texts hnil
      exact List.ne_nil_of_mem ((hsame t).mpr ht)
    have hle : common <+: common' :=
      h'.longest hne common fun t ht => h.prefix_all t ((hsame t).mp ht)
    have hge : common' <+: common :=
      h.longest hnil common' fun t ht => h'.prefix_all t ((hsame t).mpr ht)
    exact hge.eq_of_length_le hle.length_le

/-- The characters on which the texts agree, looked at one by one: each text is asked for its
character at the index, up to the first that has another one. It is `none` if a text that is
asked has no such character. -/
def agreement? (texts : List (List Char)) : Nat → List Char → Option (List Char)
  | _, [] => some []
  | i, c :: rest => do
    if ← texts.allM fun t => t[i]?.map (· = c) then
      return c :: (← agreement? texts (i + 1) rest)
    else return []

theorem allM_getElem? {i : Nat} (hlong : ∀ t ∈ texts, i < t.length) (c : Char) :
    (texts.allM fun t => t[i]?.map (decide <| · = c)) =
      some (texts.all fun t => t[i]? = some c) := by
  induction texts with
  | nil => rfl
  | cons t rest ih =>
    have hlt : i < t.length := hlong t List.mem_cons_self
    have hrest := ih fun u hu => hlong u (List.mem_cons_of_mem _ hu)
    rw [List.allM, List.all_cons, hrest, List.getElem?_eq_getElem hlt]
    by_cases hc : t[i] = c <;> simp [hc]

/-- No text is asked for a character behind its end, where all are long enough. -/
theorem agreement?_eq {i : Nat} {rest : List Char}
    (hlong : ∀ t ∈ texts, i + rest.length ≤ t.length) :
    agreement? texts i rest = some (agreement texts i rest) := by
  induction rest generalizing i with
  | nil => rfl
  | cons c rest ih =>
    have hnext : ∀ t ∈ texts, i + 1 + rest.length ≤ t.length := fun t ht => by
      have hle := hlong t ht
      rw [List.length_cons] at hle
      omega
    have hi : ∀ t ∈ texts, i < t.length := fun t ht => by
      have hle := hnext t ht
      omega
    rw [agreement?, agreement, allM_getElem? hi, ih hnext]
    cases texts.all fun t => t[i]? = some c <;> rfl

/-- The comparison comes to an end without asking any text for a character that it does not have,
and with the longest text that all texts begin with. How often the texts are given and in which
order does not matter. -/
theorem commonPrefix_greatest (texts : List (List Char)) :
    agreement? texts 0 (shortest texts) = some (commonPrefix texts) ∧
      LongestCommonPrefix texts (commonPrefix texts) ∧
      ∀ others, (∀ t, t ∈ others ↔ t ∈ texts) → commonPrefix others = commonPrefix texts := by
  refine ⟨agreement?_eq fun t ht => ?_, longestCommonPrefix_commonPrefix texts, fun others h => ?_⟩
  · simpa using length_shortest_le ht
  · exact (longestCommonPrefix_commonPrefix texts).eq_of_same
      (longestCommonPrefix_commonPrefix others) h

def inflections : List (List Char) := ["testing".toList, "test".toList, "tester".toList]

def repeatedInflections : List (List Char) :=
  ["tester".toList, "test".toList, "testing".toList, "tester".toList]

theorem commonPrefix_greatest_inflections :
    agreement? inflections 0 "test".toList = some "test".toList ∧
      (∀ t, t ∈ repeatedInflections ↔ t ∈ inflections) ∧
      commonPrefix repeatedInflections = commonPrefix inflections := by
  have hsame : ∀ t, t ∈ repeatedInflections ↔ t ∈ inflections := by
    intro t
    simp only [repeatedInflections, inflections, List.mem_cons, List.not_mem_nil, or_false]
    tauto
  obtain ⟨hasked, -, hrepeated⟩ := commonPrefix_greatest inflections
  exact ⟨hasked, hsame, hrepeated repeatedInflections hsame⟩

end EditorLink.Completion
