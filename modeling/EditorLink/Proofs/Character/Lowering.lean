import EditorLink.Character.Case
import EditorLink.Character.Word
import Mathlib.Data.List.Range

/-!
# Words in lower case

Lower-casing keeps words apart from everything else: a letter stays a letter and what is no word
character becomes none, wherever it stands in a text. The one exception is the capital I with a
dot, a letter whose lower case ends with a combining mark. Newlines stay, and come from nowhere.
-/
namespace EditorLink.Character
variable {c : Char} {before after s t : List Char} {n : Nat}

/-! ## Sets of code points as numbers -/

/-- The number whose binary digits are ones at the code points of a set, to be looked up in one
step. -/
def CodeRanges.bits : CodeRanges → Nat
  | [] => 0
  | (first, last) :: rest => (1 <<< (last + 1 - first) - 1) <<< first ||| CodeRanges.bits rest

/-- Whether ranges are not empty and in order, the first of them not below a code point. -/
def CodeRanges.ascendsFrom : Nat → CodeRanges → Bool
  | _, [] => true
  | low, (first, last) :: rest =>
    low ≤ first && first ≤ last && CodeRanges.ascendsFrom (last + 1) rest

theorem testBit_range (first last : Nat) :
    ((1 <<< (last + 1 - first) - 1) <<< first).testBit n = (first ≤ n && n ≤ last : Bool) := by
  rw [Nat.one_shiftLeft, Nat.testBit_shiftLeft, Nat.testBit_two_pow_sub_one]
  by_cases h : first ≤ n
  · simp only [ge_iff_le, h, decide_true, Bool.true_and, decide_eq_decide]
    omega
  · simp [h]

theorem testBit_bits_of_lt {ranges : CodeRanges} {low : Nat}
    (h : ranges.ascendsFrom low = true) (hn : n < low) : ranges.bits.testBit n = false := by
  induction ranges generalizing low with
  | nil => exact Nat.zero_testBit n
  | cons range rest ih =>
    obtain ⟨first, last⟩ := range
    simp only [CodeRanges.ascendsFrom, Bool.and_eq_true, decide_eq_true_eq] at h
    rw [CodeRanges.bits, Nat.testBit_or, testBit_range, ih h.2 (by omega)]
    simp only [Bool.or_false, Bool.and_eq_false_iff, decide_eq_false_iff_not]
    omega

/-- Looking up a code point in ranges that are in order is looking up one binary digit. -/
theorem contains_eq_testBit {ranges : CodeRanges} {low : Nat}
    (h : ranges.ascendsFrom low = true) : ranges.contains n = ranges.bits.testBit n := by
  induction ranges generalizing low with
  | nil => exact (Nat.zero_testBit n).symm
  | cons range rest ih =>
    obtain ⟨first, last⟩ := range
    simp only [CodeRanges.ascendsFrom, Bool.and_eq_true, decide_eq_true_eq] at h
    rw [CodeRanges.contains, CodeRanges.bits, Nat.testBit_or, testBit_range, ih h.2]
    by_cases hn : n < first
    · have hrest := testBit_bits_of_lt h.2 (n := n) (by omega)
      simp [hn, hrest]
    · simp [hn, Nat.not_lt.mp hn]

theorem ascendsFrom_wordRanges : wordRanges.ascendsFrom 0 = true := by decide +kernel

theorem isWord_eq_testBit (c : Char) : isWord c = wordRanges.bits.testBit c.toNat :=
  contains_eq_testBit ascendsFrom_wordRanges

/-! ## One character in lower case -/

/-- The code points that a run moves. -/
def Shift.codes (s : Shift) : List Nat :=
  List.range' s.first ((s.last - s.first) / s.stride + 1) s.stride

/-- A code point stays, or it is moved by a run that holds it. -/
theorem shiftBy_cases (shifts : List Shift) (n : Nat) : shiftBy shifts n = n ∨
    ∃ s ∈ shifts, n ∈ s.codes ∧ shiftBy shifts n = (n + s.shift).toNat := by
  induction shifts with
  | nil => exact .inl rfl
  | cons s rest ih =>
    rw [shiftBy]
    split
    · rename_i hmoved
      simp only [Bool.and_eq_true, decide_eq_true_eq, beq_iff_eq] at hmoved
      refine .inr ⟨s, List.mem_cons_self, ?_, rfl⟩
      have hdiv := Nat.div_add_mod (n - s.first) s.stride
      exact List.mem_range'.mpr ⟨(n - s.first) / s.stride,
        Nat.lt_succ_of_le (Nat.div_le_div_right (by omega)), by omega⟩
    · obtain h | ⟨r, hr, hn, h⟩ := ih
      · exact .inl h
      · exact .inr ⟨r, List.mem_cons_of_mem _ hr, hn, h⟩

/-- All moves into lower case lead to characters, to none of them that is a newline, and to word
characters from those alone. -/
theorem moved_lowerShifts : ∀ s ∈ lowerShifts, ∀ n ∈ s.codes,
    (n + s.shift).toNat.isValidChar ∧ (n + s.shift).toNat ≠ 10 ∧
      wordRanges.bits.testBit (n + s.shift).toNat = wordRanges.bits.testBit n := by
  decide +kernel

theorem toNat_ofNat_of_isValidChar (h : n.isValidChar) : (Char.ofNat n).toNat = n := by
  rw [Char.ofNat, dif_pos h]
  rfl

/-- A character stays, or it is moved to another one that is no newline and a word character if it
was one. -/
theorem lower_cases (c : Char) : Char.ofNat (shiftBy lowerShifts c.toNat) = c ∨
    Char.ofNat (shiftBy lowerShifts c.toNat) ≠ '\n' ∧
      isWord (Char.ofNat (shiftBy lowerShifts c.toNat)) = isWord c := by
  obtain h | ⟨s, hs, hn, h⟩ := shiftBy_cases lowerShifts c.toNat
  · exact .inl (by rw [h, Char.ofNat_toNat])
  · obtain ⟨hvalid, hne, hword⟩ := moved_lowerShifts s hs _ hn
    have hcode := toNat_ofNat_of_isValidChar hvalid
    rw [h]
    refine .inr ⟨fun heq => hne ?_, ?_⟩
    · rw [← hcode, heq]
      rfl
    · rw [isWord_eq_testBit, isWord_eq_testBit, hcode, hword]

/-- Whether a character is a word character in lower case too. -/
def staysWord (c : Char) : Bool := isWord c && c ≠ 'İ'

/-- The lower case of a character is made of word characters if and only if the character stays
one, whatever stands around it. -/
theorem all_isWord_lowerAt (before : List Char) (c : Char) (after : List Char) :
    (lowerAt before c after).all isWord = staysWord c := by
  by_cases hsigma : c = 'Σ'
  · have hforms : isWord 'ς' = true ∧ isWord 'σ' = true ∧ staysWord 'Σ' = true := by
      decide +kernel
    rw [lowerAt, if_pos hsigma, hsigma]
    split <;> simp [hforms]
  · rw [lowerAt, if_neg hsigma]
    by_cases hdotted : c = 'İ'
    · rw [if_pos hdotted, hdotted]
      decide +kernel
    · have hlower : isWord (Char.ofNat (shiftBy lowerShifts c.toNat)) = isWord c := by
        obtain h | ⟨-, h⟩ := lower_cases c
        · rw [h]
        · exact h
      simp [staysWord, hdotted, hlower]

theorem lowerAt_newline (before after : List Char) : lowerAt before '\n' after = ['\n'] := by
  rw [lowerAt, if_neg (by decide), if_neg (by decide)]
  decide +kernel

/-- A newline comes from nothing but a newline. -/
theorem not_mem_lowerAt (h : c ≠ '\n') : '\n' ∉ lowerAt before c after := by
  rw [lowerAt]
  split
  · split <;> decide
  · split
    · decide
    · obtain hsame | ⟨hne, -⟩ := lower_cases c
      · simpa [hsame] using h.symm
      · simpa using hne.symm

theorem lowerAt_ne_nil (before : List Char) (c : Char) (after : List Char) :
    lowerAt before c after ≠ [] := by
  rw [lowerAt]
  split
  · simp
  · split <;> simp

/-! ## Texts in lower case -/

/-- The lower case of a text ends with that of its last character, and what is before it is made
of word characters if and only if those of the text before stay such. -/
theorem exists_lowercaseFrom_concat (before s : List Char) (c : Char) : ∃ t around,
    lowercaseFrom before (s ++ [c]) = t ++ lowerAt around c [] ∧
      t.all isWord = s.all staysWord ∧ (t = [] ↔ s = []) := by
  induction s generalizing before with
  | nil => exact ⟨[], before, by simp [lowercaseFrom], rfl, by simp⟩
  | cons e s ih =>
    obtain ⟨t, around, ht, hword, -⟩ := ih (e :: before)
    refine ⟨lowerAt before e (s ++ [c]) ++ t, around, ?_, ?_, by simp [lowerAt_ne_nil]⟩
    · rw [List.cons_append, lowercaseFrom, ht, List.append_assoc]
    · rw [List.all_append, all_isWord_lowerAt, hword, List.all_cons]

end EditorLink.Character
