import EditorLink.Document.Position
import Mathlib.Tactic.Common

/-!
# Places in a text

The position of an offset depends on nothing but the text before it: its line is the
number of lines above, its character the length of what the last line has so far. So a
change further down moves no position above it, and a server that holds another text
with the same beginning finds the same offset there.
-/
namespace EditorLink.Text
variable {s : List Char}

@[simp] theorem splitLines_ne_nil (s : List Char) : splitLines s ≠ [] := pieces_ne_nil _ _

/-- The lines of a text above its last one. -/
def linesAbove (s : List Char) : List (List Char) := (splitLines s).dropLast

/-- The last line of a text. -/
def finalLine (s : List Char) : List Char := (splitLines s).getLast (splitLines_ne_nil s)

/-- The first line of a text. -/
def firstLine (s : List Char) : List Char := (splitLines s).head (splitLines_ne_nil s)

theorem splitLines_eq_linesAbove_append (s : List Char) :
    splitLines s = linesAbove s ++ [finalLine s] :=
  (List.dropLast_concat_getLast _).symm

theorem splitLines_eq_firstLine_cons (s : List Char) :
    splitLines s = firstLine s :: (splitLines s).tail :=
  (List.cons_head_tail _).symm

theorem splitLines_newline_cons (s : List Char) : splitLines ('\n' :: s) = [] :: splitLines s := by
  simp [splitLines, pieces]

theorem splitLines_cons {c : Char} (hc : c ≠ '\n') (s : List Char) :
    splitLines (c :: s) = (c :: firstLine s) :: (splitLines s).tail := by
  have h := splitLines_eq_firstLine_cons s
  unfold splitLines at h ⊢
  rw [pieces, if_neg (by simpa using hc), h]
  rfl

/-- A text that is continued keeps all its lines but the last, which is continued. -/
theorem splitLines_append (s t : List Char) :
    splitLines (s ++ t) = linesAbove s ++ (finalLine s ++ firstLine t) :: (splitLines t).tail := by
  induction s with
  | nil => exact splitLines_eq_firstLine_cons t
  | cons c rest ih =>
    have hs := splitLines_eq_linesAbove_append rest
    by_cases hc : c = '\n'
    · subst hc
      have ha : linesAbove ('\n' :: rest) = [] :: linesAbove rest := by
        simp [linesAbove, splitLines_newline_cons, List.dropLast_cons_of_ne_nil]
      have hl : finalLine ('\n' :: rest) = finalLine rest := by
        simp [finalLine, splitLines_newline_cons, List.getLast_cons]
      rw [List.cons_append, splitLines_newline_cons, ih, ha, hl, List.cons_append]
    · have hst := splitLines_cons hc (rest ++ t)
      have hsr := splitLines_cons hc rest
      -- the character joins the first line, which may or may not be the last one too
      cases ha : linesAbove rest with
      | nil =>
        rw [ha, List.nil_append] at hs ih
        have hf : firstLine rest = finalLine rest := by simp [firstLine, hs]
        have hft : firstLine (rest ++ t) = finalLine rest ++ firstLine t := by simp [firstLine, ih]
        have hc' : splitLines (c :: rest) = [c :: finalLine rest] := by rw [hsr, hf, hs]; rfl
        rw [List.cons_append, hst, hft, ih]
        simp [linesAbove, finalLine, hc']
      | cons line more =>
        rw [ha, List.cons_append] at hs ih
        have hf : firstLine rest = line := by simp [firstLine, hs]
        have hft : firstLine (rest ++ t) = line := by simp [firstLine, ih]
        have hc' : splitLines (c :: rest) = (c :: line) :: (more ++ [finalLine rest]) := by
          rw [hsr, hf, hs]
          rfl
        rw [List.cons_append, hst, hft, ih]
        simp [linesAbove, finalLine, hc', List.dropLast_cons_of_ne_nil, List.getLast_cons]

/-- No line has a newline in it. -/
theorem not_mem_of_mem_splitLines {line : List Char} (h : line ∈ splitLines s) : '\n' ∉ line := by
  induction s generalizing line with
  | nil =>
    obtain rfl := List.mem_singleton.mp h
    exact List.not_mem_nil
  | cons c rest ih =>
    by_cases hc : c = '\n'
    · rw [hc, splitLines_newline_cons, List.mem_cons] at h
      obtain rfl | h := h
      · exact List.not_mem_nil
      · exact ih h
    · rw [splitLines_cons hc, List.mem_cons] at h
      have hfirst : firstLine rest ∈ splitLines rest := List.head_mem _
      obtain rfl | h := h
      · simpa [Ne.symm hc] using ih hfirst
      · exact ih (List.mem_of_mem_tail h)

/-- Without carriage returns there is nothing to drop. -/
theorem unixNewlines_of_not_mem (h : '\r' ∉ s) : unixNewlines s = s := by
  induction s with
  | nil => rfl
  | cons c rest ih =>
    simp only [List.mem_cons, not_or] at h
    rw [unixNewlines, ih h.2]
    rintro more rfl -
    exact h.1 rfl

end EditorLink.Text

namespace EditorLink
open Text

/-- What can be done with each of some things can be done with all of them. -/
theorem exists_mapM {α β ε : Type} {f : α → Except ε β} {l : List α}
    (h : ∀ a ∈ l, ∃ b, f a = .ok b) : ∃ bs, l.mapM f = .ok bs := by
  induction l with
  | nil => exact ⟨[], rfl⟩
  | cons a rest ih =>
    obtain ⟨b, hb⟩ := h a List.mem_cons_self
    obtain ⟨bs, hr⟩ := ih fun c hc => h c (List.mem_cons_of_mem _ hc)
    exact ⟨b :: bs, by rw [List.mapM_cons, hb, hr]; rfl⟩

theorem exists_mapM_iff {α β ε : Type} {f : α → Except ε β} {l : List α} :
    (∃ bs, l.mapM f = .ok bs) ↔ ∀ a ∈ l, ∃ b, f a = .ok b := by
  refine ⟨?_, exists_mapM⟩
  rintro ⟨bs, h⟩
  induction l generalizing bs with
  | nil => simp
  | cons a rest ih =>
    rw [List.mapM_cons] at h
    cases ha : f a with
    | error why => rw [ha] at h; cases h
    | ok b =>
      rw [ha] at h
      cases hr : rest.mapM f with
      | error why => rw [hr] at h; cases h
      | ok more => simpa using ⟨⟨b, ha⟩, ih more hr⟩

namespace Position

/-- The position behind a text: how many lines are above the last one, and how long that is. -/
def behind (s : List Char) : Position := ⟨(linesAbove s).length, (finalLine s).length⟩

/-- A position whose numbers are small enough to be sent. -/
structure IsSendable (p : Position) : Prop where
  line : p.line ≤ Failure.maxCoordinate
  character : p.character ≤ Failure.maxCoordinate

theorem sendable_eq_ok {line character : Int} {p : Position} :
    sendable line character = .ok p ↔
      p = ⟨line, character⟩ ∧ 0 ≤ line ∧ 0 ≤ character ∧ p.IsSendable := by
  unfold sendable
  simp only [Bool.or_eq_true, decide_eq_true_eq]
  constructor
  · intro h
    split at h
    · cases h
    · split at h <;> cases h
      exact ⟨rfl, by omega, by omega, ⟨by dsimp only; omega, by dsimp only; omega⟩⟩
  · rintro ⟨rfl, h0, h1, ⟨hl, hc⟩⟩
    dsimp only at hl hc
    rw [if_neg (by omega), if_neg (by omega)]

end Position

namespace Document
variable {s t : List Char}

/-- The offset at which a line starts that has these lines above it. -/
def startBelow : List (List Char) → Nat
  | [] => 0
  | line :: rest => line.length + 1 + startBelow rest

theorem extent_append (above : List (List Char)) (last : List Char) :
    extent (above ++ [last]) = startBelow above + last.length := by
  induction above with
  | nil => simp [extent, startBelow]
  | cons line rest ih =>
    have hr : extent (line :: (rest ++ [last])) = line.length + 1 + extent (rest ++ [last]) := by
      cases rest <;> rfl
    rw [List.cons_append, hr, ih, startBelow]
    omega

theorem length_joinLines (lines : List (List Char)) : (joinLines lines).length = extent lines := by
  unfold joinLines
  fun_induction extent lines with
  | case1 => rfl
  | case2 line => rfl
  | case3 line rest hr ih =>
    obtain ⟨next, more, rfl⟩ := List.exists_cons_of_ne_nil hr
    simp only [joinWith, List.length_append, List.length_singleton, ih]

theorem length_text (d : Document) : d.text.length = d.length := length_joinLines d.lines

/-- The lines above the last one and what that has so far make up the text. -/
theorem startBelow_linesAbove (s : List Char) :
    startBelow (linesAbove s) + (finalLine s).length = s.length := by
  rw [← extent_append, ← splitLines_eq_linesAbove_append, ← length_joinLines, joinLines_splitLines]

theorem lines_ofText (h : '\r' ∉ s) : (ofText s).lines = splitLines s := by
  simp only [ofText, unixNewlines_of_not_mem h]

theorem text_ofText (h : '\r' ∉ s) : (ofText s).text = s := by
  rw [text, lines_ofText h, joinLines_splitLines]

theorem length_ofText (h : '\r' ∉ s) : (ofText s).length = s.length := by
  rw [length, lines_ofText h, ← length_joinLines, joinLines_splitLines]

theorem lineFrom_append (number start : Nat) (above : List (List Char)) (line : List Char)
    (below : List (List Char)) :
    lineFrom number start (above ++ line :: below) above.length =
      some ⟨number + above.length, start + startBelow above, line⟩ := by
  induction above generalizing number start with
  | nil => rfl
  | cons first rest ih =>
    rw [List.cons_append, List.length_cons, lineFrom, ih, startBelow]
    simp only [Option.some.injEq, Line.mk.injEq, and_true]
    omega

/-- An offset that one line reaches lies on it, because the lines above end before it. -/
theorem locateFrom_append (number start : Nat) (above : List (List Char)) {line : List Char}
    (below : List (List Char)) {k : Nat} (hk : k ≤ line.length) :
    locateFrom number start (above ++ line :: below) (start + startBelow above + k) =
      some ⟨number + above.length, start + startBelow above, line⟩ := by
  induction above generalizing number start with
  | nil =>
    rw [List.nil_append, locateFrom, if_pos (by simp only [startBelow]; omega)]
    rfl
  | cons first rest ih =>
    have ho : start + startBelow (first :: rest) + k =
        start + first.length + 1 + startBelow rest + k := by
      simp only [startBelow]
      omega
    rw [List.cons_append, locateFrom, if_neg (by omega), ho, ih]
    simp only [startBelow, List.length_cons, Option.some.injEq, Line.mk.injEq, and_true]
    omega

/-- The position of an offset, if it can be sent, is the one behind the text before it. -/
theorem positionOf_append (h : '\r' ∉ s ++ t) {p : Position}
    (hp : (ofText (s ++ t)).positionOf s.length = .ok p) : p = .behind s := by
  have hl := startBelow_linesAbove s
  have hline : (ofText (s ++ t)).lineAt s.length =
      .ok ⟨(linesAbove s).length, startBelow (linesAbove s), finalLine s ++ firstLine t⟩ := by
    have hfit : (finalLine s).length ≤ (finalLine s ++ firstLine t).length := by simp
    have hk := locateFrom_append 0 0 (linesAbove s) (splitLines t).tail hfit
    rw [Nat.zero_add, hl, ← splitLines_append] at hk
    rw [lineAt, if_neg (by omega), lines_ofText h, Int.toNat_natCast, hk]
    simp
  have hc : ((s.length : Nat) : Int) - startBelow (linesAbove s) = (finalLine s).length := by omega
  simp only [positionOf, hline, bind, Except.bind, hc] at hp
  exact (Position.sendable_eq_ok.mp hp).1

/-- Where a text starts like another, the position behind the common beginning has the
same offset in both. -/
theorem offsetOf?_behind (h : '\r' ∉ s ++ t) :
    (ofText (s ++ t)).offsetOf? (.behind s) = some s.length := by
  have hl := startBelow_linesAbove s
  have hk := lineFrom_append 0 0 (linesAbove s) (finalLine s ++ firstLine t) (splitLines t).tail
  rw [← splitLines_append] at hk
  have hn : ¬ ((decide (((linesAbove s).length : Int) < 0) ||
      decide (((finalLine s).length : Int) < 0)) = true) := by simp
  have hc : ((finalLine s).length : Int) ≤ ((finalLine s ++ firstLine t).length : Int) := by
    rw [List.length_append]
    omega
  rw [offsetOf?, Position.behind]
  dsimp only
  rw [if_neg hn, lines_ofText h, Int.toNat_natCast, hk]
  dsimp only
  rw [if_pos hc, Int.toNat_natCast, Nat.zero_add, hl]

/-- Whatever its lines hold, a document has a line for every offset up to its length; there
are at most as many lines above it as characters. -/
theorem exists_locateFrom (lines : List (List Char)) {number start offset : Nat}
    (hne : lines ≠ []) (hn : number ≤ start) (hs : start ≤ offset)
    (ho : offset ≤ start + extent lines) :
    ∃ l, locateFrom number start lines offset = some l ∧ l.number ≤ l.start ∧ l.start ≤ offset := by
  induction lines generalizing number start with
  | nil => exact absurd rfl hne
  | cons line rest ih =>
    rw [locateFrom]
    by_cases hl : offset ≤ start + line.length
    · exact ⟨_, if_pos hl, hn, hs⟩
    · rw [if_neg hl]
      cases rest with
      | nil => exact absurd ho hl
      | cons next more =>
        rw [extent] at ho
        · exact ih nofun (by omega) (by omega) (by omega)
        · exact nofun

theorem bounds_of_locateFrom {lines : List (List Char)} {number start offset : Nat} {l : Line}
    (h : locateFrom number start lines offset = some l) (hs : start ≤ offset) :
    l.start ≤ offset ∧ offset ≤ start + extent lines := by
  induction lines generalizing number start with
  | nil => cases h
  | cons line rest ih =>
    rw [locateFrom] at h
    split at h
    · cases h
      cases rest <;> simp only [extent] <;> omega
    · have hrest := ih h (by omega)
      cases rest with
      | nil => cases h
      | cons next more => simp only [extent] at hrest ⊢; omega

theorem lineAt_eq_ok {d : Document} {offset : Int} {l : Line} :
    d.lineAt offset = .ok l ↔ 0 ≤ offset ∧ locateFrom 0 0 d.lines offset.toNat = some l := by
  unfold lineAt
  split
  · simp; omega
  · split <;> simp_all

theorem text_mem_of_locateFrom {lines : List (List Char)} {number start offset : Nat} {l : Line}
    (h : locateFrom number start lines offset = some l) : l.text ∈ lines := by
  induction lines generalizing number start with
  | nil => cases h
  | cons line rest ih =>
    rw [locateFrom] at h
    split at h
    · cases h
      exact List.mem_cons_self
    · exact List.mem_cons_of_mem _ (ih h)

/-- A line of a text has no newline in it. -/
theorem not_mem_of_lineAt {offset : Int} {l : Line} (h : (ofText s).lineAt offset = .ok l) :
    '\n' ∉ l.text :=
  not_mem_of_mem_splitLines (text_mem_of_locateFrom (lineAt_eq_ok.mp h).2)

/-- An offset inside a document whose position is small enough to be sent. -/
structure Reaches (d : Document) (offset : Int) : Prop where
  nonneg : 0 ≤ offset
  le_length : offset ≤ d.length
  sendable : ∀ l, d.lineAt offset = .ok l → Position.IsSendable ⟨l.number, offset - l.start⟩

theorem exists_positionOf_iff {d : Document} {offset : Int} :
    (∃ p, d.positionOf offset = .ok p) ↔ d.Reaches offset := by
  constructor
  · rintro ⟨p, hp⟩
    cases hl : d.lineAt offset with
    | error why => simp [positionOf, hl, bind, Except.bind] at hp
    | ok l =>
      simp only [positionOf, hl, bind, Except.bind, Position.sendable_eq_ok] at hp
      obtain ⟨h0, hloc⟩ := lineAt_eq_ok.mp hl
      have hlen := (bounds_of_locateFrom hloc (Nat.zero_le _)).2
      refine ⟨h0, by rw [length]; omega, fun k hk => ?_⟩
      cases hl.symm.trans hk
      exact hp.1 ▸ hp.2.2.2
  · intro h
    have ho : offset.toNat ≤ 0 + extent d.lines := by
      rw [Nat.zero_add]
      exact Int.toNat_le.mpr h.le_length
    obtain ⟨l, hloc, -, hstart⟩ :=
      exists_locateFrom d.lines d.lines_ne_nil (Nat.le_refl 0) (Nat.zero_le _) ho
    have h0 := h.nonneg
    have hl := lineAt_eq_ok.mpr ⟨h0, hloc⟩
    refine ⟨⟨l.number, offset - l.start⟩, ?_⟩
    simp only [positionOf, hl, bind, Except.bind]
    exact Position.sendable_eq_ok.mpr
      ⟨rfl, Int.natCast_nonneg _, by omega, h.sendable l hl⟩

/-- Every offset up to the length can be reached, unless the document is very long. -/
theorem reaches_of_length {d : Document} {offset : Int} (h0 : 0 ≤ offset)
    (hl : offset ≤ d.length) (hm : d.length ≤ Failure.maxCoordinate) : d.Reaches offset := by
  refine ⟨h0, hl, fun l hline => ?_⟩
  have hloc := (lineAt_eq_ok.mp hline).2
  have ho : offset.toNat ≤ 0 + extent d.lines := by
    rw [Nat.zero_add]
    exact Int.toNat_le.mpr hl
  obtain ⟨k, hk, hnum, hstart⟩ :=
    exists_locateFrom d.lines d.lines_ne_nil (Nat.le_refl 0) (Nat.zero_le _) ho
  cases hloc.symm.trans hk
  constructor <;> dsimp only <;> omega

/-- Every offset up to the length has a position, unless it is too large to be sent. -/
theorem exists_positionOf (d : Document) {offset : Int} (h0 : 0 ≤ offset)
    (hl : offset ≤ d.length) (hm : d.length ≤ Failure.maxCoordinate) :
    ∃ p, d.positionOf offset = .ok p :=
  exists_positionOf_iff.mpr (reaches_of_length h0 hl hm)

end Document
end EditorLink
