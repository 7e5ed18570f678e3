import EditorLink.Proofs.Pattern.AtCursor

/-!
# Words at the cursor

Where the host brings no pattern, completions are asked for behind a word, or behind a word and a
point or a slash. A run of word characters can end behind each of them, and the search tries all
places of a line for its start. So for a match up to the end of the line it is enough that the run
has one character there, and the last two characters of the line tell whether there is one.
-/
namespace EditorLink
open Character

namespace Pattern
variable {set : CharSet} {s t : Cursor} {n : Nat}

/-! ## Where a run ends -/

/-- The way from one place to another leads over a piece that has only characters of a set. -/
structure Passes (set : CharSet) (s t : Cursor) (piece : List Char) : Prop where
  isPrefix : piece <+: s.rest
  holds : ∀ c ∈ piece, set.holds c = true
  eq_forth : t = s.forth piece.length

theorem passes_nil : Passes set s t [] ↔ t = s :=
  ⟨fun h => h.eq_forth, fun h => ⟨List.nil_prefix, by simp, h⟩⟩

theorem passes_cons {c : Char} {piece : List Char} :
    Passes set s t (c :: piece) ↔
      s.rest.head? = some c ∧ set.holds c = true ∧ Passes set (s.forth 1) t piece := by
  have hlen : 1 + piece.length = (c :: piece).length := Nat.add_comm _ _
  constructor
  · rintro ⟨⟨more, hmore⟩, hall, rfl⟩
    rw [List.forall_mem_cons] at hall
    refine ⟨by simp [← hmore], hall.1, ⟨more, by simp [← hmore]⟩, hall.2, ?_⟩
    rw [Cursor.forth_forth, hlen]
  · rintro ⟨hhead, hc, ⟨more, hmore⟩, hall, rfl⟩
    obtain ⟨rest, hrest⟩ := List.head?_eq_some_iff.mp hhead
    refine ⟨⟨more, ?_⟩, List.forall_mem_cons.mpr ⟨hc, hall⟩, ?_⟩
    · simpa [hrest] using hmore
    · rw [Cursor.forth_forth, hlen]

theorem exists_passes_cons :
    (∃ c piece, Passes set s t (c :: piece)) ↔
      s.rest.head?.any set.holds = true ∧ ∃ piece, Passes set (s.forth 1) t piece := by
  simp only [passes_cons, Option.any_eq_true, exists_and_left]
  constructor
  · rintro ⟨c, hc, hholds, hrest⟩
    exact ⟨⟨c, hc, hholds⟩, hrest⟩
  · rintro ⟨⟨c, hc, hholds⟩, hrest⟩
    exact ⟨c, hc, hholds, hrest⟩

theorem exists_passes :
    (∃ piece, Passes set s t piece) ↔ (∃ c piece, Passes set s t (c :: piece)) ∨ t = s := by
  constructor
  · rintro ⟨_ | ⟨c, piece⟩, h⟩
    · exact .inr (passes_nil.mp h)
    · exact .inl ⟨c, piece, h⟩
  · rintro (⟨c, piece, h⟩ | h)
    · exact ⟨c :: piece, h⟩
    · exact ⟨[], passes_nil.mpr h⟩

/-- With a round for each character that is left, a repetition can end wherever only characters of
the set have been passed. -/
theorem mem_upToEnds_one (h : s.rest.length ≤ n) :
    t ∈ upToEnds (one set).ends true n s ↔ ∃ piece, Passes set s t piece := by
  induction n generalizing s with
  | zero =>
    have hnil : s.rest = [] := List.length_eq_zero_iff.mp (Nat.le_zero.mp h)
    rw [exists_passes, exists_passes_cons, upToEnds, List.mem_singleton, hnil]
    simp
  | succ n ih =>
    -- a round takes one of the characters that are left, so the rounds suffice for the others
    have hmore := @ih (s.forth 1) (by rw [Cursor.rest_forth, List.length_drop]; omega)
    have hfurther : s.position < (s.forth 1).position := Nat.lt_succ_self _
    rw [exists_passes, exists_passes_cons, ← hmore, upToEnds, if_pos rfl, List.mem_append,
      List.mem_singleton, ends]
    refine or_congr_left ?_
    split
    · rename_i hhead
      rw [List.flatMap_singleton, if_pos hfurther]
      exact (and_iff_right hhead).symm
    · rename_i hhead
      simp [hhead]

/-- A run of word characters ends behind one or more of them. -/
theorem mem_ends_wordRun :
    t ∈ wordRun.ends s ↔ ∃ c piece, Passes .words s t (c :: piece) := by
  have hends : wordRun.ends s = ((one .words).ends s).flatMap fun u =>
      upToEnds (one .words).ends true (u.rest.length + 1) u := by
    have honce : exactlyEnds (one .words).ends 1 s = (one .words).ends s :=
      List.flatMap_singleton' _
    rw [← honce]
    rfl
  rw [hends, exists_passes_cons, ends]
  split
  · rename_i hhead
    rw [List.flatMap_singleton, mem_upToEnds_one (Nat.le_succ _)]
    exact (and_iff_right hhead).symm
  · rename_i hhead
    simp [hhead]

/-! ## Matches at the end of a line -/

/-- A run ends before the last part of a text if a word character stands there. -/
theorem exists_wordRun_before (text tail : List Char) :
    (∃ before rest, text = before ++ rest ∧
        ∃ t ∈ wordRun.ends (.between before rest), t.rest = tail) ↔
      ∃ front c, text = front ++ c :: tail ∧ isWord c = true := by
  simp only [mem_ends_wordRun]
  constructor
  · rintro ⟨before, _, rfl, t, ⟨c, piece, ⟨more, rfl⟩, hall, rfl⟩, hrest⟩
    have hmore : more = tail := by simpa [Cursor.between] using hrest
    have hlast := List.dropLast_concat_getLast (List.cons_ne_nil c piece)
    refine ⟨before ++ (c :: piece).dropLast, (c :: piece).getLast (List.cons_ne_nil _ _), ?_, ?_⟩
    · conv_lhs => rw [← hlast, hmore]
      simp
    · rw [← CharSet.holds_words]
      exact hall _ (List.getLast_mem _)
  · rintro ⟨front, c, rfl, hc⟩
    -- the shortest run will do
    refine ⟨front, c :: tail, rfl, _, ⟨c, [], ⟨tail, rfl⟩, ?_, rfl⟩, ?_⟩
    · simpa [CharSet.holds_words] using hc
    · simp [Cursor.between]

theorem matchesEnd_alt (p q : Pattern) (text : List Char) :
    (alt p q).MatchesEnd text ↔ p.MatchesEnd text ∨ q.MatchesEnd text := by
  simp only [MatchesEnd, ends, List.mem_append, or_and_right, exists_or, and_or_left]

/-- One character leads to the end of a text if it is all that is left. -/
theorem exists_ends_char (d : Char) (s : Cursor) :
    (∃ t ∈ (char d).ends s, t.rest = []) ↔ s.rest = [d] := by
  rw [char, ends]
  cases hs : s.rest with
  | nil => simp
  | cons c rest => by_cases hc : c = d <;> simp [CharSet.holds_single, hc, hs]

theorem matchesEnd_wordRun (before : List Char) (last : Char) :
    wordRun.MatchesEnd (before ++ [last]) ↔ isWord last = true := by
  rw [MatchesEnd, exists_wordRun_before]
  constructor
  · rintro ⟨front, c, heq, hc⟩
    obtain ⟨-, hlast⟩ := List.append_inj' heq rfl
    rwa [List.singleton_inj.mp hlast]
  · exact fun h => ⟨before, last, rfl, h⟩

theorem matchesEnd_wordRun_char (before : List Char) (last d : Char) :
    (seq wordRun (char d)).MatchesEnd (before ++ [last]) ↔
      last = d ∧ before.getLast?.any isWord = true := by
  have hsplit : (seq wordRun (char d)).MatchesEnd (before ++ [last]) ↔
      ∃ front c, before ++ [last] = front ++ [c, d] ∧ isWord c = true := by
    rw [← exists_wordRun_before, MatchesEnd]
    refine exists_congr fun passed => exists_congr fun rest => and_congr_right fun _ => ?_
    simp only [ends, List.mem_flatMap, ← exists_ends_char]
    constructor
    · rintro ⟨t, ⟨u, hu, ht⟩, hend⟩
      exact ⟨u, hu, t, ht, hend⟩
    · rintro ⟨u, hu, t, ht, hend⟩
      exact ⟨t, ⟨u, hu, ht⟩, hend⟩
  rw [hsplit]
  constructor
  · rintro ⟨front, c, heq, hc⟩
    rw [List.append_cons front] at heq
    obtain ⟨rfl, hlast⟩ := List.append_inj' heq rfl
    exact ⟨List.singleton_inj.mp hlast, by simpa using hc⟩
  · rintro ⟨rfl, h⟩
    obtain ⟨c, hlast, hc⟩ := (Option.any_eq_true _ _).mp h
    obtain ⟨front, rfl⟩ := List.getLast?_eq_some_iff.mp hlast
    exact ⟨front, c, by simp, hc⟩

/-! ## Groups that nobody asks for -/

/-- Patterns that match to the same places everywhere are found at the same places. -/
theorem searchFrom_congr {p q : Pattern}
    (h : ∀ s, (p.run s some).map Cursor.position = (q.run s some).map Cursor.position)
    (position : Nat) (before text : List Char) :
    p.searchFrom position before text = q.searchFrom position before text := by
  induction text generalizing position before with
  | nil =>
    have hmap := congrArg (Option.map (position, ·)) (h ⟨position, before, [], []⟩)
    simpa [searchFrom, Function.comp_def] using hmap
  | cons c rest ih =>
    have hrun := h ⟨position, before, c :: rest, []⟩
    rw [searchFrom, searchFrom]
    cases hp : p.run ⟨position, before, c :: rest, []⟩ some <;>
      cases hq : q.run ⟨position, before, c :: rest, []⟩ some <;> simp_all

/-- What a group remembers plays no part in whether its end is at a place. -/
theorem search_group (index : Nat) (p : Pattern) (a : Anchor) (text : List Char) :
    (seq (group index p) (place a)).search text = (seq p (place a)).search text := by
  refine searchFrom_congr (fun s => ?_) 0 [] text
  have hremember (t : Cursor) : (s.remember t index).isAt a = t.isAt a := by cases a <;> rfl
  simp only [run, run_eq p, List.map_findSome?, Function.comp_def, hremember]
  refine congrArg (fun f => (p.ends s).findSome? f) (funext fun t => ?_)
  split <;> rfl

end Pattern

namespace CursorPattern
open Pattern
variable {line : List Char} {last : Char} {characters : List String} {pattern : CursorPattern}

/-- The default pattern as it is written. -/
def wordSource : List Char := "(\\w+\\.|\\w+/|\\w+)$".toList

theorem read_wordSource :
    Pattern.read .none wordSource = .ok (Pattern.group 1 wordPattern).anchored := by
  decide +kernel

/-- The pattern of words finds what the written one finds, whose group nobody asks for. -/
theorem search_wordSource : ∃ p, Pattern.read .none wordSource = .ok p ∧
    ∀ text, p.search text = wordPattern.anchored.search text :=
  ⟨_, read_wordSource, fun text => search_group 1 wordPattern .lastLineEnd text⟩

/-- The pattern of words has a match up to the end of a text exactly if the text ends in a word
character, or in a point or a slash behind one. -/
theorem matchesEnd_wordPattern (before : List Char) (last : Char) :
    wordPattern.MatchesEnd (before ++ [last]) ↔
      isWord last = true ∨ (last = '.' ∨ last = '/') ∧ before.getLast?.any isWord = true := by
  rw [wordPattern, matchesEnd_alt, matchesEnd_alt, matchesEnd_wordRun_char, matchesEnd_wordRun_char,
    matchesEnd_wordRun]
  tauto

/-- Behind a trigger the pattern plays no part. -/
theorem completionTrigger_of_mem (hlast : line.getLast? = some last)
    (h : String.singleton last ∈ characters) :
    completionTrigger line false characters pattern =
      .ok (some (.character (String.singleton last))) := by
  rw [completionTrigger, if_neg (by decide), hlast]
  exact if_pos (by simpa using h)

/-- Where the host has no pattern, the last two characters of a line decide why completions are
asked for, if at all: the last one if it is a trigger, and else whether a word ends there. -/
theorem completionTrigger_words (hline : '\n' ∉ line) (characters : List String) :
    completionTrigger line false characters .words = .ok (
      match line.reverse with
      | [] => none
      | last :: before =>
        if String.singleton last ∈ characters then some (.character (String.singleton last))
        else if isWord last ∨ (last = '.' ∨ last = '/') ∧ before.head?.any isWord then some .invoked
        else none) := by
  obtain rfl | ⟨before, last, rfl⟩ := List.eq_nil_or_concat' line
  · rfl
  rw [List.reverse_append, List.reverse_singleton, List.singleton_append]
  dsimp only
  rw [List.head?_reverse]
  by_cases hlast : String.singleton last ∈ characters
  · rw [completionTrigger_of_mem List.getLast?_concat hlast, if_pos hlast]
  · have hfound := (found_anchored_iff wordPattern hline).trans (matchesEnd_wordPattern before last)
    rw [completionTrigger_implicit List.getLast?_concat hlast, if_neg hlast]
    simp only [anchored, Except.map, hfound]

/-- Behind a point there is a word or not, or the point is a trigger itself. -/
theorem completionTrigger_words_point :
    '\n' ∉ "\u00e9.".toList ∧ '\n' ∉ "a..".toList ∧
      completionTrigger "\u00e9.".toList false ["/"] .words = .ok (some .invoked) ∧
      completionTrigger "\u00e9.".toList false ["/", "."] .words = .ok (some (.character ".")) ∧
      completionTrigger "a..".toList false [] .words = .ok none := by
  have hword : '\n' ∉ "\u00e9.".toList := by decide
  have hpoints : '\n' ∉ "a..".toList := by decide
  exact ⟨hword, hpoints, (completionTrigger_words hword ["/"]).trans rfl,
    (completionTrigger_words hword ["/", "."]).trans rfl,
    (completionTrigger_words hpoints []).trans rfl⟩

end CursorPattern
end EditorLink
