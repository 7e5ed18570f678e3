import EditorLink.Proofs.Document.Flat
import EditorLink.Trigger

/-!
# Calls that are open at the cursor

Whether the cursor is inside a call is told from a window of lines, the one of the cursor up to it
and some lines above. In the text of the document the window starts behind a newline: whoever reads
backwards from the cursor passes as many newlines as there are lines above in the window, and stops
at the next one, or at the start of the text.
-/
namespace EditorLink

namespace Text

/-- Reads what stands before a place backwards, past some newlines up to the next one, and gives the
offset behind that one; zero if there are not so many. -/
def behindNewline : Nat → List Char → Nat
  | _, [] => 0
  | n, c :: before =>
    if c ≠ '\n' then behindNewline n before
    else if n = 0 then before.length + 1
    else behindNewline (n - 1) before

/-- Where the last line of a text and some lines above it start. -/
def windowStart (linesBack : Nat) (s : List Char) : Nat := behindNewline linesBack s.reverse

theorem behindNewline_append {n : Nat} {passed : List Char} (h : passed.count '\n' ≤ n)
    (before : List Char) :
    behindNewline n (passed ++ before) = behindNewline (n - passed.count '\n') before := by
  induction passed generalizing n with
  | nil => rfl
  | cons c passed ih =>
    rw [List.cons_append, behindNewline]
    by_cases hc : c = '\n'
    · subst hc
      rw [List.count_cons_self] at h ⊢
      rw [if_neg (not_not.mpr rfl), if_neg (by omega), ih (by omega), Nat.sub_sub, Nat.add_comm 1]
    · rw [List.count_cons_of_ne hc] at h ⊢
      rw [if_pos hc, ih h]

/-- Without enough newlines a window is the whole text. -/
theorem windowStart_of_count_le {n : Nat} {s : List Char} (h : s.count '\n' ≤ n) :
    windowStart n s = 0 := by
  have hcount : s.reverse.count '\n' ≤ n := by rwa [List.count_reverse]
  have hpassed := behindNewline_append hcount []
  rw [List.append_nil] at hpassed
  rw [windowStart, hpassed, behindNewline]

/-- A window with as many newlines in it as asked for starts behind a newline. -/
theorem windowStart_append (front window : List Char) :
    windowStart (window.count '\n') (front ++ '\n' :: window) = front.length + 1 := by
  have hcount : window.reverse.count '\n' = window.count '\n' := List.count_reverse
  have hpassed := behindNewline_append (Nat.le_of_eq hcount) ('\n' :: front.reverse)
  rw [hcount, Nat.sub_self] at hpassed
  rw [windowStart, List.reverse_append, List.reverse_cons, List.append_assoc, List.singleton_append,
    hpassed, behindNewline, if_neg (not_not.mpr rfl), if_pos rfl, List.length_reverse]

end Text

namespace Document
open Text
variable {d : Document} {k l : Line} {n o : Nat}

/-- Behind the lines above, a text ends with the newline of the last of them. -/
theorem exists_joinLines_concat_nil {above : List (List Char)} (h : above ≠ []) :
    ∃ front, joinLines (above ++ [[]]) = front ++ ['\n'] := by
  induction above with
  | nil => exact absurd rfl h
  | cons line rest ih =>
    rw [List.cons_append, joinLines_cons (by simp)]
    obtain rfl | hrest := eq_or_ne rest []
    · exact ⟨line, rfl⟩
    · obtain ⟨front, hfront⟩ := ih hrest
      exact ⟨line ++ '\n' :: front, by rw [hfront]; simp⟩

theorem locateFrom_start (h : lineFrom 0 0 d.lines n = some k) :
    locateFrom 0 0 d.lines k.start = some k :=
  locateFrom_of_lineFrom h (Nat.zero_le _)

/-- A line with lines above it starts behind a newline. -/
theorem exists_take_start (h : lineFrom 0 0 d.lines n = some k) (hn : n ≠ 0) :
    ∃ front, d.text.take k.start = front ++ ['\n'] := by
  obtain ⟨above, below, hlines, hlength, hnumber, -⟩ := exists_split_of_lineFrom h
  have hstart := take_text (locateFrom_start h)
  have habove : d.lines.take k.number = above := by
    rw [hlines, hnumber, Nat.zero_add, ← hlength, List.take_left]
  rw [habove, Nat.sub_self, List.take_zero] at hstart
  rw [hstart]
  refine exists_joinLines_concat_nil ?_
  rintro rfl
  exact hn hlength.symm

/-- A line that is not below the one of an offset starts before it. -/
theorem start_le_of_number_le (hk : lineFrom 0 0 d.lines n = some k)
    (hl : locateFrom 0 0 d.lines o = some l) (h : n ≤ l.number) : k.start ≤ o := by
  by_contra hlt
  have hbefore : o ≤ k.start := Nat.le_of_lt (Nat.not_le.mp hlt)
  obtain rfl | hnumber := locateFrom_mono hl (locateFrom_start hk) hbefore
  · obtain ⟨-, -, -, -, hstart, -⟩ := exists_split_of_located hl
    exact hlt hstart
  · rw [number_of_lineFrom hk] at hnumber
    omega

/-- The window of lines before an offset starts where that of the text before it does. -/
theorem start_eq_windowStart {linesBack : Nat} (hlines : ∀ t ∈ d.lines, '\n' ∉ t)
    (hl : locateFrom 0 0 d.lines o = some l)
    (hk : lineFrom 0 0 d.lines (l.number - linesBack) = some k) (ho : o ≤ d.text.length) :
    k.start = windowStart linesBack (d.text.take o) := by
  have hnumber := number_eq_count hlines hl
  by_cases hback : l.number ≤ linesBack
  · rw [Nat.sub_eq_zero_of_le hback] at hk
    obtain ⟨above, -, -, habove, -, hstart⟩ := exists_split_of_lineFrom hk
    rw [windowStart_of_count_le (by omega), hstart, List.length_eq_zero_iff.mp habove]
    rfl
  · have hle := start_le_of_number_le hk hl (Nat.sub_le _ _)
    obtain ⟨front, hfront⟩ := exists_take_start hk (by omega)
    have hlength : front.length + 1 = k.start := by
      have htake := congrArg List.length hfront
      rw [List.length_take, List.length_append, List.length_singleton] at htake
      omega
    have hsplit : d.text.take o = d.text.take k.start ++ (d.text.take o).drop k.start := by
      conv_lhs => rw [← List.take_append_drop k.start (d.text.take o)]
      rw [List.take_take, Nat.min_eq_left hle]
    -- the text before a line has as many newlines as there are lines above, so the rest has
    -- the others
    have hcount : ((d.text.take o).drop k.start).count '\n' = linesBack := by
      have habove := number_eq_count hlines (locateFrom_start hk)
      have hboth := congrArg (List.count '\n') hsplit
      rw [List.count_append] at hboth
      rw [number_of_lineFrom hk] at habove
      omega
    have hwindow := windowStart_append front ((d.text.take o).drop k.start)
    rw [hfront, List.append_assoc, List.singleton_append] at hsplit
    rw [← hlength, ← hwindow, hcount, ← hsplit]

/-- There is a line as far back from another one as asked for, or else the first one. -/
theorem exists_line_back (hl : locateFrom 0 0 d.lines o = some l) (linesBack : Nat) :
    ∃ k, d.line (max 0 (l.number - linesBack)) = .ok k ∧
      lineFrom 0 0 d.lines (l.number - linesBack) = some k := by
  have hlast := lt_lineCount (lineFrom_of_locateFrom hl)
  obtain ⟨k, hk⟩ : ∃ k, lineFrom 0 0 d.lines (l.number - linesBack) = some k := by
    refine Option.ne_none_iff_exists'.mp fun hnone => ?_
    have hpast := lineCount_le_iff.mpr hnone
    omega
  have hindex : (max 0 ((l.number : Int) - linesBack)).toNat = l.number - linesBack := by omega
  exact ⟨k, line_eq_ok.mpr ⟨by omega, by rwa [hindex]⟩, hk⟩

/-- The lines from some way back up to an offset hold what the last lines of the text before it
do. -/
theorem exists_window (hlines : ∀ t ∈ d.lines, '\n' ∉ t) (ho : o ≤ d.length) (linesBack : Nat) :
    ∃ l k, d.lineAt o = .ok l ∧ d.line (max 0 (l.number - linesBack)) = .ok k ∧
      d.slice k.start (some o) =
        .ok ((d.text.take o).drop (windowStart linesBack (d.text.take o))) := by
  obtain ⟨l, hl⟩ := exists_lineAt ho
  have hlocate := lineAt_natCast_eq_ok.mp hl
  obtain ⟨k, hline, hk⟩ := exists_line_back hlocate linesBack
  have hle := start_le_of_number_le hk hlocate (Nat.sub_le _ _)
  rw [← start_eq_windowStart hlines hlocate hk (by rwa [length_text])]
  exact ⟨l, k, hl, hline, slice_eq hle ho⟩

end Document

theorem parenthesisBalance_pos_iff (s : List Char) :
    0 < parenthesisBalance s ↔ s.count ')' < s.count '(' := by
  rw [parenthesisBalance]
  omega

/-- In a document that is made from a text, the cursor is inside a call if and only if more
parentheses are opened than closed in the last lines of the text before it. If there are no more
lines than the window may have, that is all the text before the cursor. -/
theorem insideCall_eq (s : List Char) {o : Nat} (ho : o ≤ (Document.ofText s).length)
    (linesBack : Nat) :
    let before := (Document.ofText s).text.take o
    let window := before.drop (Text.windowStart linesBack before)
    insideCall (Document.ofText s) o linesBack =
        .ok (decide (window.count ')' < window.count '(')) ∧
      (before.count '\n' ≤ linesBack →
        insideCall (Document.ofText s) o linesBack =
          .ok (decide (before.count ')' < before.count '('))) := by
  intro before window
  have hlines : ∀ t ∈ (Document.ofText s).lines, '\n' ∉ t :=
    fun t ht => Text.not_mem_of_mem_splitLines ht
  obtain ⟨l, k, hl, hk, hslice⟩ := Document.exists_window hlines ho linesBack
  have hinside : insideCall (Document.ofText s) o linesBack =
      .ok (decide (window.count ')' < window.count '(')) := by
    simp only [insideCall, hl, hk, hslice, bind, Except.bind, pure, Except.pure,
      parenthesisBalance_pos_iff]
    rfl
  refine ⟨hinside, fun hall => ?_⟩
  have hwhole : window = before := by
    dsimp only [window]
    rw [Text.windowStart_of_count_le hall, List.drop_zero]
  rw [hinside, hwhole]

/-- In the last of three lines the call of the second one is closed, and that of the first one is
only seen from two lines away. -/
theorem insideCall_eq_threeLines :
    9 ≤ (Document.ofText "f(\r\ng(),\r\nh".toList).length ∧
      Text.windowStart 1 "f(\ng(),\nh".toList = 3 ∧
      insideCall (Document.ofText "f(\r\ng(),\r\nh".toList) 9 1 = .ok false ∧
      insideCall (Document.ofText "f(\r\ng(),\r\nh".toList) 9 2 = .ok true := by
  have ho : 9 ≤ (Document.ofText "f(\r\ng(),\r\nh".toList).length := by decide
  have hnear := (insideCall_eq "f(\r\ng(),\r\nh".toList ho 1).1
  have hfar := (insideCall_eq "f(\r\ng(),\r\nh".toList ho 2).2 (by decide)
  exact ⟨ho, by decide, hnear.trans rfl, hfar.trans rfl⟩

end EditorLink
