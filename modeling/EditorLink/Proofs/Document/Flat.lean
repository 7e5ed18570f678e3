import EditorLink.Proofs.Document.Correspondence

/-!
# A document as one text

A document is held by lines, yet what it tells about offsets it tells about its text. The text
before an offset is what the lines above and the beginning of the offset's line make together,
the text behind it what the rest of that line and the lines below do, and what lies between two
offsets is the text before one of them behind the other. The lines may hold newlines of their
own for that. Where they do not, as in every document that is made from a text, a line has as
many newlines before it as lines above.
-/
namespace EditorLink.Document
open Text
variable {d : Document} {above below : List (List Char)} {line : List Char} {k l : Line}

/-! ## The text on both sides of an offset -/

theorem joinLines_cons (h : below ≠ []) :
    joinLines (line :: below) = line ++ '\n' :: joinLines below := by
  rw [joinLines, joinWith_cons h, List.append_assoc]
  rfl

/-- Before a place on a line there are the lines above and what this line has so far. -/
theorem take_joinLines (above below : List (List Char)) {n : Nat} (hn : n ≤ line.length) :
    (joinLines (above ++ line :: below)).take (startBelow above + n) =
      joinLines (above ++ [line.take n]) := by
  induction above with
  | nil =>
    cases below with
    | nil => simp [startBelow, joinLines, joinWith]
    | cons next more =>
      rw [List.nil_append, List.nil_append, joinLines_cons (List.cons_ne_nil _ _), startBelow,
        Nat.zero_add, List.take_append_of_le_length hn]
      rfl
  | cons first rest ih =>
    rw [List.cons_append, List.cons_append, joinLines_cons (by simp), joinLines_cons (by simp),
      startBelow, Nat.add_assoc, Nat.add_assoc, List.take_length_add_append, Nat.add_comm 1,
      List.take_succ_cons, ih]

/-- Behind a place on a line there are the rest of this line and the lines below. -/
theorem drop_joinLines (above below : List (List Char)) {n : Nat} (hn : n ≤ line.length) :
    (joinLines (above ++ line :: below)).drop (startBelow above + n) =
      joinLines (line.drop n :: below) := by
  induction above with
  | nil =>
    cases below with
    | nil => simp [startBelow, joinLines, joinWith]
    | cons next more =>
      rw [List.nil_append, joinLines_cons (List.cons_ne_nil _ _),
        joinLines_cons (List.cons_ne_nil _ _), startBelow, Nat.zero_add,
        List.drop_append_of_le_length hn]
  | cons first rest ih =>
    rw [List.cons_append, joinLines_cons (by simp), startBelow, Nat.add_assoc, Nat.add_assoc,
      List.drop_length_add_append, Nat.add_comm 1, List.drop_succ_cons, ih]

/-- The line of an offset splits the lines of the document. -/
theorem exists_split_of_located {o : Nat} (h : locateFrom 0 0 d.lines o = some l) :
    ∃ below, d.lines = d.lines.take l.number ++ l.text :: below ∧
      (d.lines.take l.number).length = l.number ∧
      l.start = startBelow (d.lines.take l.number) ∧ l.start ≤ o ∧ o ≤ l.stop := by
  have hstart := (bounds_of_locateFrom h (Nat.zero_le _)).1
  obtain ⟨above, below, hlines, hnumber, hbelow, hstop⟩ := exists_split_of_locateFrom h
  rw [Nat.zero_add] at hnumber hbelow
  have habove : d.lines.take l.number = above := by rw [hlines, hnumber, List.take_left]
  rw [habove]
  exact ⟨below, hlines, hnumber.symm, hbelow, hstart, hstop⟩

theorem take_text {o : Nat} (h : locateFrom 0 0 d.lines o = some l) :
    d.text.take o = joinLines (d.lines.take l.number ++ [l.text.take (o - l.start)]) := by
  obtain ⟨below, hlines, -, hbelow, hstart, hstop⟩ := exists_split_of_located h
  rw [Line.stop] at hstop
  have ho : o = startBelow (d.lines.take l.number) + (o - l.start) := by omega
  have hn : o - l.start ≤ l.text.length := by omega
  have htake := take_joinLines (d.lines.take l.number) below hn
  rwa [← hlines, ← ho] at htake

/-- The text of a line is the stretch from its start to its end. -/
theorem text_of_located {o : Nat} (h : locateFrom 0 0 d.lines o = some l) :
    l.text = (d.text.take l.stop).drop l.start := by
  have hline := locateFrom_of_lineFrom (lineFrom_of_locateFrom h) (Nat.le_refl l.text.length)
  obtain ⟨-, -, -, hbelow, -, -⟩ := exists_split_of_located hline
  have hdrop := drop_joinLines (d.lines.take l.number) [] (Nat.zero_le l.text.length)
  rw [Line.stop, take_text hline, Nat.add_sub_cancel_left, List.take_length, hbelow]
  exact hdrop.symm

/-- A line below another one has it, and what lies between them, above itself. -/
theorem take_number_of_lt {a : Nat} (hk : locateFrom 0 0 d.lines a = some k)
    (h : k.number < l.number) :
    d.lines.take l.number =
      d.lines.take k.number ++ k.text :: (d.lines.take l.number).drop (k.number + 1) := by
  obtain ⟨below, hlines, hlength, -⟩ := exists_split_of_located hk
  obtain ⟨n, hn⟩ := Nat.exists_eq_add_of_lt h
  have htake : d.lines.take l.number = d.lines.take k.number ++ k.text :: below.take n := by
    conv_lhs => rw [hlines]
    rw [hn, List.take_append, hlength, List.take_of_length_le (by omega), Nat.add_assoc,
      Nat.add_sub_cancel_left, List.take_succ_cons]
  have hdrop : (d.lines.take l.number).drop (k.number + 1) = below.take n := by
    rw [htake, List.drop_append, hlength, List.drop_of_length_le (by omega),
      Nat.add_sub_cancel_left]
    rfl
  rw [hdrop, ← htake]

/-- What a document has between two places is the stretch of its text between them. -/
theorem between_eq {a b : Nat} (hk : locateFrom 0 0 d.lines a = some k)
    (hl : locateFrom 0 0 d.lines b = some l) (h : a ≤ b) :
    d.between k l a b = (d.text.take b).drop a := by
  obtain ⟨-, -, -, hbelow, hstart, hstop⟩ := exists_split_of_located hk
  rw [Line.stop] at hstop
  have ha : startBelow (d.lines.take k.number) + (a - k.start) = a := by omega
  rw [take_text hl, between]
  obtain rfl | hlt := locateFrom_mono hk hl h
  · have hn : a - k.start ≤ (k.text.take (b - k.start)).length := by
      rw [List.length_take]
      omega
    have hdrop := drop_joinLines (d.lines.take k.number) [] hn
    rw [ha] at hdrop
    rw [if_pos rfl, hdrop]
    rfl
  · have hn : a - k.start ≤ k.text.length := by omega
    have hdrop := drop_joinLines (d.lines.take k.number)
      ((d.lines.take l.number).drop (k.number + 1) ++ [l.text.take (b - l.start)]) hn
    rw [ha, ← List.cons_append, ← List.append_assoc, ← take_number_of_lt hk hlt] at hdrop
    rw [if_neg (Nat.ne_of_lt hlt), hdrop]

/-! ## Newlines before a line -/

/-- Lines without newlines of their own are parted by one newline each. -/
theorem count_joinLines (above : List (List Char)) (h : ∀ t ∈ above, '\n' ∉ t) (hl : '\n' ∉ line) :
    (joinLines (above ++ [line])).count '\n' = above.length := by
  induction above with
  | nil => exact List.count_eq_zero.mpr hl
  | cons first rest ih =>
    have hfirst := List.count_eq_zero.mpr (h first List.mem_cons_self)
    have hrest := ih fun t ht => h t (List.mem_cons_of_mem _ ht)
    rw [List.cons_append, joinLines_cons (by simp), List.count_append, List.count_cons_self, hfirst,
      hrest, List.length_cons, Nat.zero_add]

/-- In a document without newlines in its lines, a line has its number of newlines before it. -/
theorem number_eq_count {o : Nat} (hlines : ∀ t ∈ d.lines, '\n' ∉ t)
    (h : locateFrom 0 0 d.lines o = some l) : l.number = (d.text.take o).count '\n' := by
  obtain ⟨-, -, hlength, -⟩ := exists_split_of_located h
  have hl := hlines _ (text_mem_of_locateFrom h)
  rw [take_text h, count_joinLines _ (fun t ht => hlines t (List.mem_of_mem_take ht))
    fun hn => hl (List.mem_of_mem_take hn), hlength]

/-! ## All that a document tells about offsets -/

/-- What a document tells about offsets is true of a text. -/
structure ReadsAs (d : Document) (text : List Char) : Prop where
  length : d.length = text.length
  /-- Each offset lies on a line of the document, which is a stretch of the text around it. -/
  line : ∀ o : Nat, o ≤ text.length → ∃ l, d.lineAt o = .ok l ∧ d.line l.number = .ok l ∧
    l.start ≤ o ∧ o ≤ l.stop ∧ l.text = (text.take l.stop).drop l.start
  /-- No other line of the document reaches this offset. -/
  only : ∀ (o : Nat) (n : Int) (k l : Line), d.lineAt o = .ok l → d.line n = .ok k →
    k.start ≤ o → o ≤ k.stop → k = l
  /-- Outside the text there are no lines. -/
  outside : ∀ o : Int, o < 0 ∨ text.length < o →
    d.lineAt o = .error (.offsetOutOfRange o text.length)
  /-- Between two offsets the document has what the text has. -/
  slice : ∀ a b : Nat, a ≤ b → b ≤ text.length →
    d.slice a (some b) = .ok ((text.take b).drop a)
  /-- Behind an offset too. -/
  rest : ∀ a : Nat, a ≤ text.length → d.slice a none = .ok (text.drop a)
  /-- Made from a text, the document numbers its lines by the newlines before them. -/
  number : (∃ s, d = ofText s) → ∀ (o : Nat) (l : Line), d.lineAt o = .ok l →
    l.number = (text.take o).count '\n'

theorem lineAt_natCast_eq_ok {o : Nat} :
    d.lineAt o = .ok l ↔ locateFrom 0 0 d.lines o = some l := by
  rw [lineAt_eq_ok, Int.toNat_natCast]
  exact and_iff_right (Int.natCast_nonneg o)

theorem exists_lineAt {o : Nat} (h : o ≤ d.length) : ∃ l, d.lineAt o = .ok l := by
  obtain ⟨l, hl, -, -⟩ := exists_locateFrom d.lines d.lines_ne_nil (Nat.le_refl 0) (Nat.zero_le o)
    (by rw [Nat.zero_add]; exact h)
  exact ⟨l, lineAt_natCast_eq_ok.mpr hl⟩

theorem lineAt_eq_error {o : Int} (h : o < 0 ∨ d.length < o) :
    d.lineAt o = .error (.offsetOutOfRange o d.length) := by
  by_cases h0 : o < 0
  · exact if_pos h0
  · rw [lineAt, if_neg h0]
    cases hl : locateFrom 0 0 d.lines o.toNat with
    | none => rfl
    | some l =>
      have hlength := (bounds_of_locateFrom hl (Nat.zero_le _)).2
      rw [Nat.zero_add] at hlength
      rw [length] at h
      omega

theorem slice_eq {a b : Nat} (h : a ≤ b) (hb : b ≤ d.length) :
    d.slice a (some b) = .ok ((d.text.take b).drop a) := by
  obtain ⟨k, hk⟩ := exists_lineAt (Nat.le_trans h hb)
  obtain ⟨l, hl⟩ := exists_lineAt hb
  simp only [slice, Option.getD_some, hk, hl, bind, Except.bind, pure, Except.pure,
    Int.toNat_natCast, between_eq (lineAt_natCast_eq_ok.mp hk) (lineAt_natCast_eq_ok.mp hl) h]

/-- What a document tells about offsets is true of its text, whatever its lines hold. -/
theorem readsAs (d : Document) : d.ReadsAs d.text where
  length := d.length_text.symm
  line o ho := by
    rw [length_text] at ho
    obtain ⟨l, hl⟩ := exists_lineAt ho
    have hlocate := lineAt_natCast_eq_ok.mp hl
    obtain ⟨-, -, -, -, hstart, hstop⟩ := exists_split_of_located hlocate
    have hline : d.line l.number = .ok l :=
      line_eq_ok.mpr ⟨Int.natCast_nonneg _, lineFrom_of_locateFrom hlocate⟩
    exact ⟨l, hl, hline, hstart, hstop, text_of_located hlocate⟩
  only o n k l hl hk hstart hstop := by
    have hplace := locateFrom_of_lineFrom (c := o - k.start) (line_eq_ok.mp hk).2
      (by rw [Line.stop] at hstop; omega)
    rw [Nat.add_sub_cancel' hstart, lineAt_natCast_eq_ok.mp hl] at hplace
    exact (Option.some.inj hplace).symm
  outside o ho := by
    rw [length_text] at ho ⊢
    exact lineAt_eq_error ho
  slice a b hab hb := slice_eq hab (by rwa [length_text] at hb)
  rest a ha := by
    have hslice := slice_eq (d := d) ha (Nat.le_of_eq d.length_text)
    rw [List.take_length, length_text] at hslice
    exact hslice
  number hd o l hl := by
    obtain ⟨s, rfl⟩ := hd
    exact number_eq_count (fun t ht => not_mem_of_mem_splitLines ht) (lineAt_natCast_eq_ok.mp hl)

/-- From within a line that holds a newline to behind the break at its end. -/
example : (ofLines ["a\nb".toList, []]).slice 1 (some 4) = .ok "\nb\n".toList := rfl

end EditorLink.Document
