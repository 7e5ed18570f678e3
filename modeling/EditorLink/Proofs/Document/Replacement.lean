import EditorLink.Proofs.Document.Places

/-!
# Replacing in a document

A document drops the carriage returns that stand before newlines when it is made from a text. A
replacement makes the new document from the new text as a whole. So it drops those too that stood
before a newline already, or come to stand before one where the old text and the inserted one
meet, and it leaves the old text alone only where there are none of them.
-/
namespace EditorLink.Text
variable {s t before middle behind y : List Char} {c : Char}

/-! ## What dropping carriage returns does to a part of a text -/

/-- Of three texts in a row, the middle one holds each carriage return that stands before a
newline, together with the newline. -/
def BreaksWithin (before middle behind : List Char) : Prop :=
  ∀ x y, before ++ middle ++ behind = x ++ '\r' :: '\n' :: y → before <+: x ∧ behind <:+ y

theorem unixNewlines_cons (h : ∀ y, c :: s ≠ '\r' :: '\n' :: y) :
    unixNewlines (c :: s) = c :: unixNewlines s := by
  rw [unixNewlines]
  rintro rest rfl rfl
  exact h rest rfl

/-- A text stays as it is in front of another one if no carriage return in it stands before a
newline. -/
theorem unixNewlines_append_of_starts (h : ∀ x y, s ++ t = x ++ '\r' :: '\n' :: y → s <+: x) :
    unixNewlines (s ++ t) = s ++ unixNewlines t := by
  induction s with
  | nil => rfl
  | cons c s ih =>
    have hc (y : List Char) : c :: (s ++ t) ≠ '\r' :: '\n' :: y := fun hy =>
      List.cons_ne_nil _ _ (List.prefix_nil.mp (h [] y hy))
    have hs (x y : List Char) (hxy : s ++ t = x ++ '\r' :: '\n' :: y) : s <+: x :=
      (List.cons_prefix_cons.mp (h (c :: x) y (congrArg (List.cons c) hxy))).2
    rw [List.cons_append, unixNewlines_cons hc, ih hs, List.cons_append]

/-- It does not stay as it is otherwise. -/
theorem starts_of_prefix_unixNewlines (h : s <+: unixNewlines (s ++ t)) (x y : List Char)
    (hxy : s ++ t = x ++ '\r' :: '\n' :: y) : s <+: x := by
  induction s generalizing x with
  | nil => exact List.nil_prefix
  | cons c s ih =>
    have hc (y : List Char) : c :: (s ++ t) ≠ '\r' :: '\n' :: y := by
      intro hy
      rw [List.cons_append, hy, unixNewlines, (List.cons_eq_cons.mp hy).1] at h
      exact absurd (List.cons_prefix_cons.mp h).1 (by decide)
    rw [List.cons_append, unixNewlines_cons hc, List.cons_prefix_cons] at h
    cases x with
    | nil => exact absurd hxy (hc y)
    | cons e x =>
      obtain ⟨rfl, hrest⟩ := List.cons_eq_cons.mp hxy
      exact List.cons_prefix_cons.mpr ⟨rfl, ih h.2 x hrest⟩

/-- A text without carriage returns before newlines stays as it is. -/
theorem unixNewlines_eq_self_iff : unixNewlines s = s ↔ ∀ x y, s ≠ x ++ '\r' :: '\n' :: y := by
  have hlong (x y : List Char) (hxy : s = x ++ '\r' :: '\n' :: y) : ¬ s <+: x := fun hp => by
    have := hp.length_le
    rw [hxy, List.length_append, List.length_cons] at this
    omega
  have hwhole := unixNewlines_append_of_starts (s := s) (t := [])
  have hstarts := starts_of_prefix_unixNewlines (s := s) (t := [])
  simp only [List.append_nil, unixNewlines] at hwhole hstarts
  constructor
  · intro h x y hxy
    exact hlong x y hxy (hstarts (h.symm ▸ List.prefix_refl s) x y hxy)
  · intro h
    exact hwhole fun x y hxy => absurd hxy (h x y)

/-- A carriage return is at the end of a text if the newline behind it is not in the text. -/
theorem seam_of_cons (hne : ∀ more, c = '\r' → s = '\n' :: more → False)
    (h : c :: (s ++ t) = '\r' :: '\n' :: y) : s = [] ∧ c = '\r' ∧ t = '\n' :: y := by
  obtain ⟨rfl, hrest⟩ := List.cons_eq_cons.mp h
  cases s with
  | nil => exact ⟨rfl, rfl, hrest⟩
  | cons e more =>
    obtain ⟨rfl, -⟩ := List.cons_eq_cons.mp hrest
    exact (hne more rfl rfl).elim

/-- A text stays as it is behind another one if no newline in it stands behind a carriage
return. -/
theorem unixNewlines_append_of_ends (h : ∀ x y, s ++ t = x ++ '\r' :: '\n' :: y → t <:+ y) :
    unixNewlines (s ++ t) = unixNewlines s ++ t := by
  fun_induction unixNewlines s with
  | case1 =>
    refine unixNewlines_eq_self_iff.mpr fun x y hxy => ?_
    have hshort := (h x y hxy).length_le
    rw [List.nil_append] at hxy
    rw [hxy, List.length_append, List.length_cons, List.length_cons] at hshort
    omega
  | case2 rest ih =>
    have hrest := ih fun x y hxy => h ('\r' :: '\n' :: x) y (congrArg ('\r' :: '\n' :: ·) hxy)
    rw [List.cons_append, List.cons_append, unixNewlines, hrest, List.cons_append]
  | case3 c rest hne ih =>
    have hc (y : List Char) : c :: (rest ++ t) ≠ '\r' :: '\n' :: y := by
      intro hy
      obtain ⟨rfl, rfl, rfl⟩ := seam_of_cons hne hy
      have hshort := (h [] y rfl).length_le
      rw [List.length_cons] at hshort
      omega
    have hrest := ih fun x y hxy => h (c :: x) y (congrArg (List.cons c) hxy)
    rw [List.cons_append, unixNewlines_cons hc, hrest, List.cons_append]

/-- It does not stay as it is otherwise. -/
theorem ends_of_unixNewlines_append (h : unixNewlines (s ++ t) = unixNewlines s ++ t)
    (x y : List Char) (hxy : s ++ t = x ++ '\r' :: '\n' :: y) : t <:+ y := by
  fun_induction unixNewlines s generalizing x with
  | case1 => exact absurd hxy (unixNewlines_eq_self_iff.mp h x y)
  | case2 rest ih =>
    rw [List.cons_append, List.cons_append, unixNewlines, List.cons_append] at h
    cases x with
    | nil =>
      obtain rfl : rest ++ t = y := by simpa using hxy
      exact List.suffix_append rest t
    | cons e x =>
      have hxy := (List.cons_eq_cons.mp hxy).2
      cases x with
      | nil => simp at hxy
      | cons f x => exact ih (List.cons_eq_cons.mp h).2 x (List.cons_eq_cons.mp hxy).2
  | case3 c rest hne ih =>
    have hc (y : List Char) : c :: (rest ++ t) ≠ '\r' :: '\n' :: y := by
      intro hy
      obtain ⟨rfl, rfl, rfl⟩ := seam_of_cons hne hy
      exact absurd (List.cons_eq_cons.mp h).1 (by decide)
    rw [List.cons_append, unixNewlines_cons hc] at h
    cases x with
    | nil => exact absurd hxy (hc y)
    | cons e x => exact ih (List.cons_eq_cons.mp h).2 x (List.cons_eq_cons.mp hxy).2

/-- Texts around another one stay as they are if and only if that one holds each carriage return
that stands before a newline. -/
theorem unixNewlines_append_iff :
    unixNewlines (before ++ middle ++ behind) = before ++ unixNewlines middle ++ behind ↔
      BreaksWithin before middle behind := by
  rw [BreaksWithin, List.append_assoc, List.append_assoc]
  constructor
  · intro h
    have hstarts := starts_of_prefix_unixNewlines (h ▸ List.prefix_append before _)
    rw [unixNewlines_append_of_starts hstarts, List.append_cancel_left_eq] at h
    intro x y hxy
    obtain ⟨x, rfl⟩ := hstarts x y hxy
    rw [List.append_assoc, List.append_cancel_left_eq] at hxy
    exact ⟨List.prefix_append _ _, ends_of_unixNewlines_append h x y hxy⟩
  · intro h
    have hends (x y : List Char) (hxy : middle ++ behind = x ++ '\r' :: '\n' :: y) : behind <:+ y :=
      (h (before ++ x) y (by rw [hxy, List.append_assoc])).2
    rw [unixNewlines_append_of_starts fun x y hxy => (h x y hxy).1,
      unixNewlines_append_of_ends hends]

end EditorLink.Text

namespace EditorLink.Document
open Text
variable {s t inserted : List Char} {start stop : Nat}

/-! ## Replacements -/

theorem text_ofText_eq (s : List Char) : (ofText s).text = unixNewlines s :=
  joinLines_splitLines _

theorem lines_ofText_eq (s : List Char) : (ofText s).lines = splitLines (ofText s).text := by
  rw [text_ofText_eq]
  rfl

/-- A document that is made from a text is known by its text. -/
theorem ofText_eq_iff : ofText s = ofText t ↔ (ofText s).text = (ofText t).text := by
  refine ⟨congrArg text, fun h => ?_⟩
  have hlines : (ofText s).lines = (ofText t).lines := by rw [lines_ofText_eq, lines_ofText_eq, h]
  exact Document.mk.injEq _ _ _ _ ▸ hlines

/-- Between two offsets inside it, a document is replaced by what is inserted, and made anew. -/
theorem replace_eq (d : Document) (h : start ≤ stop) (hstop : stop ≤ d.length) :
    d.replace start stop inserted =
      ofText (d.text.take start ++ inserted ++ d.text.drop stop) := by
  rw [← length_text] at hstop
  rw [replace]
  simp only [cutIndex]
  rw [if_neg (by omega), if_neg (by omega), Int.toNat_natCast, Int.toNat_natCast,
    Nat.min_eq_left (Nat.le_trans h hstop), Nat.min_eq_left hstop]

/-- A replacement puts what is inserted between the old texts before and behind its place, if and
only if each carriage return that comes to stand before a newline is inserted together with the
newline. Where nothing is replaced by nothing, the document stays the same if and only if it has
no carriage return before a newline. -/
theorem replace_splices_iff (s inserted : List Char) (h : start ≤ stop)
    (hstop : stop ≤ (ofText s).length) :
    (((ofText s).replace start stop inserted).text =
        (ofText s).text.take start ++ unixNewlines inserted ++ (ofText s).text.drop stop ↔
      BreaksWithin ((ofText s).text.take start) inserted ((ofText s).text.drop stop)) ∧
    ((ofText s).replace start start [] = ofText s ↔
      ∀ x y, (ofText s).text ≠ x ++ '\r' :: '\n' :: y) := by
  constructor
  · rw [replace_eq _ h hstop, text_ofText_eq, unixNewlines_append_iff]
  · rw [replace_eq _ (Nat.le_refl start) (Nat.le_trans h hstop), List.append_nil,
      List.take_append_drop, ofText_eq_iff, text_ofText_eq, unixNewlines_eq_self_iff]

/-- A line break is replaced by another one and more text, behind a carriage return that stands
alone. -/
theorem replace_splices_break :
    3 ≤ 4 ∧ 4 ≤ (ofText "a\rb\r\nc".toList).length ∧
      BreaksWithin "a\rb".toList "\r\n-".toList "c".toList ∧
      ((ofText "a\rb\r\nc".toList).replace 3 4 "\r\n-".toList).text = "a\rb\n-c".toList :=
  ⟨by decide, by decide,
    (replace_splices_iff "a\rb\r\nc".toList "\r\n-".toList (by decide : 3 ≤ 4) (by decide)).1.mp
      (by decide),
    by decide⟩

/-- Of two carriage returns before a newline a document keeps one, and loses it when nothing is
replaced by nothing. One at its end is lost when a newline is inserted behind it. -/
theorem replace_drops_returns :
    (ofText "\r\r\n".toList).text = "\r\n".toList ∧
      ((ofText "\r\r\n".toList).replace 0 0 []).text = "\n".toList ∧
      (ofText "\r\r\n".toList).replace 0 0 [] ≠ ofText "\r\r\n".toList ∧
      ((ofText "a\r".toList).replace 2 2 "\n".toList).text ≠ "a\r".toList ++ "\n".toList := by
  decide

end EditorLink.Document
