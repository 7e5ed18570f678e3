import EditorLink.Proofs.Pattern.Enclosing
import EditorLink.Proofs.Pattern.Ends
import EditorLink.Trigger

/-!
# Patterns of the host at the cursor

A pattern of the host is put into a group that has to end at the cursor, and read again. This keeps
what it means, but not the switches that it was read with, and switches at the start of its source
have no place in a group.
-/
namespace EditorLink
open Pattern

namespace CursorPattern
variable {pattern : CursorPattern} {source : List Char} {own : Switches} {p : Pattern}
  {line : List Char} {last : Char} {characters : List String}

/-- The source of a pattern that the host brings, with the switches that it has of its own. -/
def brought? : CursorPattern → Option (List Char × Switches)
  | words => none
  | written source => some (source, .none)
  | prepared source own => some (source, own)

theorem read_eq_ok : read own source = .ok p ↔ Pattern.read own source = .ok p := by
  rw [read]
  cases Pattern.read own source <;> simp [Except.mapError]

theorem anchored_of_brought (h : pattern.brought? = some (source, own)) :
    pattern.anchored = read .none (anchoredSource source) := by
  cases pattern with
  | words => cases h
  | written _ | prepared _ _ =>
    cases h
    rfl

/-- Where a source can be read without switches and does not begin with any, the pattern is what it
means then. -/
theorem anchored_eq_ok (h : pattern.brought? = some (source, own))
    (hread : Pattern.read .none source = .ok p) (hopens : ¬ OpensWithSwitches (signs source)) :
    pattern.anchored = .ok p.anchored := by
  obtain ⟨q, hq, henclosed, -⟩ := read_enclosed rfl hopens hread
  obtain rfl := Except.ok.inj (hread.symm.trans hq)
  rw [anchored_of_brought h, CursorPattern.read, henclosed]
  rfl

theorem anchored_eq_error (h : pattern.brought? = some (source, own))
    (hopens : OpensWithSwitches (signs source)) : pattern.anchored = .error .malformedPattern := by
  rw [anchored_of_brought h, CursorPattern.read, read_enclosed_error hopens]
  rfl

theorem completionTrigger_implicit (hlast : line.getLast? = some last)
    (hcharacters : String.singleton last ∉ characters) :
    completionTrigger line false characters pattern =
      pattern.anchored.map fun q => if q.found line then some .invoked else none := by
  rw [completionTrigger, if_neg (by decide), hlast]
  dsimp only
  rw [if_neg (by simpa using hcharacters)]
  cases pattern.anchored <;> rfl

/-- What an editor asks for is right if and only if the pattern can be read and finds what the host
meant. -/
theorem asked_eq_iff {asked : Except Failure Pattern} {meant : Prop} [Decidable meant] :
    (asked.map fun q => if q.found line then some CompletionTrigger.invoked else none) =
        .ok (if meant then some .invoked else none) ↔
      ∃ q, asked = .ok q ∧ (q.found line = true ↔ meant) := by
  cases asked with
  | error why => simp [Except.map]
  | ok q =>
    simp only [Except.map, Except.ok.injEq, exists_eq_left']
    by_cases hfound : q.found line = true <;> by_cases hmeant : meant <;> simp [hfound, hmeant]

/-- Behind a character that is no trigger, completions are asked for exactly if the pattern of the
host has a match up to the cursor, provided that it does not begin with switches and that its own
switches make no difference there. A source whose blanks and comments do not count may have
parentheses in its comments, so that it can be read in a group only; then it depends on what the
two of them mean. -/
theorem completionTrigger_eq_iff (hpattern : pattern.brought? = some (source, own))
    (hread : Pattern.read own source = .ok p) (hline : '\n' ∉ line)
    (hlast : line.getLast? = some last) (hcharacters : String.singleton last ∉ characters) :
    completionTrigger line false characters pattern =
        .ok (if p.MatchesEnd line then some .invoked else none) ↔
      ¬ OpensWithSwitches (signs source) ∧
        ((∃ q, Pattern.read .none source = .ok q ∧ (q.MatchesEnd line ↔ p.MatchesEnd line)) ∨
          own.isSpaced = true ∧ (∀ q, Pattern.read .none source ≠ .ok q) ∧
            ∃ q, Pattern.read .none (anchoredSource source) = .ok q ∧
              (q.found line = true ↔ p.MatchesEnd line)) := by
  rw [completionTrigger_implicit hlast hcharacters, asked_eq_iff]
  by_cases hopens : OpensWithSwitches (signs source)
  · rw [anchored_eq_error hpattern hopens]
    exact ⟨fun ⟨q, hq, _⟩ => (nomatch hq), fun h => absurd hopens h.1⟩
  rw [and_iff_right hopens]
  cases hplain : Pattern.read .none source with
  | ok q =>
    -- in a group the source means what it means alone
    rw [anchored_eq_ok hpattern hplain hopens]
    simp [found_anchored_iff q hline]
  | error why =>
    have hspaced : own.isSpaced = true := by
      rw [← Bool.not_eq_false]
      intro hspaced
      obtain ⟨q, hq, -⟩ := read_enclosed hspaced hopens hread
      cases hplain.symm.trans hq
    rw [anchored_of_brought hpattern]
    simp [hspaced, read_eq_ok]

/-- Switches under which case does not count. -/
def caseless : Switches := { Switches.none with ignoresCase := true }

/-- Switches under which blanks and comments do not count. -/
def spaced : Switches := { Switches.none with isSpaced := true }

/-- What `ab` means under some switches. -/
def letterPair (w : Switches) : Pattern := .seq (ofCode w 'a'.toNat) (ofCode w 'b'.toNat)

theorem read_letterPair_none : Pattern.read .none "ab".toList = .ok (letterPair .none) := rfl

theorem read_letterPair_caseless : Pattern.read caseless "ab".toList = .ok (letterPair caseless) :=
  rfl

theorem completionTrigger_eq_letterPair :
    completionTrigger "xab".toList false ["."] (.prepared "ab".toList caseless) =
      .ok (some .invoked) := by
  have hbrought : (CursorPattern.prepared "ab".toList caseless).brought? =
      some ("ab".toList, caseless) := rfl
  have hlast : "xab".toList.getLast? = some 'b' := rfl
  have hcharacters : String.singleton 'b' ∉ ["."] := by decide
  have hopens : ¬ OpensWithSwitches (signs "ab".toList) :=
    fun h => absurd (head?_of_opensWithSwitches h) (by decide)
  have hmatch (w : Switches) (hends : ⟨3, ['b', 'a', 'x'], [], []⟩ ∈
      (letterPair w).ends (.between ['x'] ['a', 'b'])) : (letterPair w).MatchesEnd "xab".toList :=
    ⟨['x'], ['a', 'b'], rfl, _, hends, rfl⟩
  have hown := hmatch caseless (by decide +kernel)
  have hplain := hmatch .none (by decide +kernel)
  have hasked := (completionTrigger_eq_iff hbrought read_letterPair_caseless (by decide) hlast
    hcharacters).mpr ⟨hopens, .inl ⟨_, read_letterPair_none, iff_of_true hplain hown⟩⟩
  rwa [if_pos hown] at hasked

/-- A pattern that ignores case misses capitals, one that says so at its start is refused, and one
whose blanks do not count is looked for with its blanks. -/
theorem completionTrigger_ne_letterPair :
    (letterPair caseless).MatchesEnd "AB".toList ∧
      (Pattern.read caseless "ab".toList = .ok (letterPair caseless) ∧
        completionTrigger "AB".toList false [] (.prepared "ab".toList caseless) = .ok none) ∧
      (Pattern.read .none "(?i)ab".toList = .ok (letterPair caseless) ∧
        completionTrigger "AB".toList false [] (.written "(?i)ab".toList) =
          .error .malformedPattern) ∧
      (letterPair spaced).MatchesEnd "ab".toList ∧
      Pattern.read spaced "a b".toList = .ok (letterPair spaced) ∧
      completionTrigger "ab".toList false [] (.prepared "a b".toList spaced) = .ok none := by
  have hcapitals : (letterPair caseless).MatchesEnd "AB".toList :=
    ⟨[], ['A', 'B'], rfl, ⟨2, ['B', 'A'], [], []⟩, by decide +kernel, rfl⟩
  have hpair : (letterPair spaced).MatchesEnd "ab".toList :=
    ⟨[], ['a', 'b'], rfl, ⟨2, ['b', 'a'], [], []⟩, by decide +kernel, rfl⟩
  exact ⟨hcapitals, ⟨rfl, rfl⟩, ⟨rfl, rfl⟩, hpair, rfl, rfl⟩

/-- What is a comment to the host may end the group. -/
example : Pattern.read spaced "a#)|(?:b".toList = .ok (ofCode spaced 'a'.toNat) ∧
    completionTrigger "b".toList false [] (.prepared "a#)|(?:b".toList spaced) =
      .ok (some .invoked) := ⟨rfl, rfl⟩

end CursorPattern
end EditorLink
