import EditorLink.Proofs.Document.Order

/-!
# Offsets and positions as one order

A line of a document is found by its number and by each offset on it. So every offset has one
position on the lines of the document, which leads back to it, and what is further down has a
larger offset. The places past the last line that a document has all stand for its end.
-/
namespace EditorLink.Document
variable {d : Document} {lines : List (List Char)} {number start : Nat} {k l : Line}

/-! ## Lines by number and by offset -/

theorem lineFrom_eq_none_iff {n : Nat} :
    lineFrom number start lines n = none ↔ lines.length ≤ n := by
  induction lines generalizing number start n with
  | nil => simp [lineFrom]
  | cons line rest ih =>
    cases n with
    | zero => simp [lineFrom]
    | succ n => rw [lineFrom, ih, List.length_cons, Nat.succ_le_succ_iff]

theorem lineCount_le_iff {n : Nat} : d.lineCount ≤ n ↔ lineFrom 0 0 d.lines n = none :=
  lineFrom_eq_none_iff.symm

theorem lt_lineCount {n : Nat} (h : lineFrom 0 0 d.lines n = some l) : n < d.lineCount := by
  by_contra hpast
  cases h.symm.trans (lineCount_le_iff.mp (Nat.not_lt.mp hpast))

/-- A line that is found by its number has as many lines above it. -/
theorem exists_split_of_lineFrom {n : Nat} (h : lineFrom number start lines n = some l) :
    ∃ above below, lines = above ++ l.text :: below ∧ above.length = n ∧
      l.number = number + n ∧ l.start = start + startBelow above := by
  induction lines generalizing number start n with
  | nil => simp [lineFrom] at h
  | cons line rest ih =>
    cases n with
    | zero =>
      cases h
      exact ⟨[], rest, rfl, rfl, rfl, rfl⟩
    | succ n =>
      rw [lineFrom] at h
      obtain ⟨above, below, rfl, hlen, hnumber, hstart⟩ := ih h
      refine ⟨line :: above, below, rfl, by simp [hlen], by omega, ?_⟩
      rw [hstart, startBelow]
      omega

theorem number_of_lineFrom {n : Nat} (h : lineFrom 0 0 lines n = some l) : l.number = n := by
  obtain ⟨-, -, -, -, hnumber, -⟩ := exists_split_of_lineFrom h
  rw [hnumber, Nat.zero_add]

/-- A line that is found by an offset reaches it. -/
theorem exists_split_of_locateFrom {offset : Nat}
    (h : locateFrom number start lines offset = some l) :
    ∃ above below, lines = above ++ l.text :: below ∧ l.number = number + above.length ∧
      l.start = start + startBelow above ∧ offset ≤ l.stop := by
  induction lines generalizing number start with
  | nil => cases h
  | cons line rest ih =>
    rw [locateFrom] at h
    split at h
    · cases h
      exact ⟨[], rest, rfl, rfl, rfl, ‹_›⟩
    · obtain ⟨above, below, rfl, hnumber, hstart, hstop⟩ := ih h
      refine ⟨line :: above, below, rfl, ?_, ?_, hstop⟩
      · rw [hnumber, List.length_cons]
        omega
      · rw [hstart, startBelow]
        omega

/-- A line that is found by an offset is found by its number too. -/
theorem lineFrom_of_locateFrom {offset : Nat} (h : locateFrom 0 0 lines offset = some l) :
    lineFrom 0 0 lines l.number = some l := by
  obtain ⟨above, below, rfl, hnumber, hstart, -⟩ := exists_split_of_locateFrom h
  have hline := lineFrom_append 0 0 above l.text below
  rw [← hnumber, ← hstart] at hline
  have hlength : above.length = l.number := by omega
  rwa [hlength] at hline

/-- A line that is found by its number is found by each offset on it. -/
theorem locateFrom_of_lineFrom {n c : Nat} (h : lineFrom 0 0 lines n = some l)
    (hc : c ≤ l.text.length) : locateFrom 0 0 lines (l.start + c) = some l := by
  obtain ⟨above, below, rfl, rfl, hnumber, hstart⟩ := exists_split_of_lineFrom h
  have hline := locateFrom_append 0 0 above below hc
  rwa [← hnumber, ← hstart] at hline

theorem start_le_of_lineFrom {n : Nat} (h : lineFrom number start lines n = some l) :
    start ≤ l.start := by
  obtain ⟨above, below, -, -, -, hstart⟩ := exists_split_of_lineFrom h
  omega

/-- A line ends before each line below it starts. -/
theorem stop_lt_of_lineFrom {m n : Nat} (hk : lineFrom number start lines m = some k)
    (hl : lineFrom number start lines n = some l) (h : m < n) : k.stop < l.start := by
  induction lines generalizing number start m n with
  | nil => simp [lineFrom] at hk
  | cons line rest ih =>
    obtain ⟨n, rfl⟩ : ∃ i, n = i + 1 := ⟨n - 1, by omega⟩
    rw [lineFrom] at hl
    cases m with
    | zero =>
      cases hk
      have hstart := start_le_of_lineFrom hl
      rw [Line.stop]
      dsimp only
      omega
    | succ m =>
      rw [lineFrom] at hk
      exact ih hk hl (by omega)

/-! ## Positions that a document has -/

/-- A document has the places on its lines, and the starts of lines past its last one. -/
theorem offsetOf?_eq_some {p : Position} {o : Nat} :
    d.offsetOf? p = some o ↔ (0 ≤ p.line ∧ 0 ≤ p.character) ∧
      ((∃ l, lineFrom 0 0 d.lines p.line.toNat = some l ∧ p.character ≤ l.text.length ∧
          o = l.start + p.character.toNat) ∨
        (d.lineCount ≤ p.line ∧ p.character = 0 ∧ o = d.length)) := by
  by_cases hneg : p.line < 0 ∨ p.character < 0
  · have hnone : d.offsetOf? p = none := if_pos (by simpa using hneg)
    rw [hnone]
    exact ⟨(absurd · (Option.some_ne_none o).symm), fun h => by omega⟩
  · rw [offsetOf?, if_neg (by simpa using hneg)]
    cases hline : lineFrom 0 0 d.lines p.line.toNat with
    | none =>
      have hpast := lineCount_le_iff.mpr hline
      simp only [reduceCtorEq, false_and, exists_false, false_or]
      by_cases hc : p.character = 0
      · rw [if_pos hc, Option.some_inj]
        constructor
        · rintro rfl
          exact ⟨⟨by omega, by omega⟩, by omega, hc, rfl⟩
        · rintro ⟨-, -, -, rfl⟩
          rfl
      · rw [if_neg hc]
        exact ⟨(absurd · (Option.some_ne_none o).symm), fun h => absurd h.2.2.1 hc⟩
    | some l =>
      have hin : ¬ (d.lineCount : Int) ≤ p.line := by
        intro hle
        cases hline.symm.trans (lineCount_le_iff.mp (by omega))
      simp only [Option.some.injEq, exists_eq_left', hin, false_and, or_false]
      by_cases hc : p.character ≤ l.text.length
      · rw [if_pos hc, Option.some_inj]
        constructor
        · rintro rfl
          exact ⟨⟨by omega, by omega⟩, hc, rfl⟩
        · rintro ⟨-, -, rfl⟩
          rfl
      · rw [if_neg hc]
        exact ⟨(absurd · (Option.some_ne_none o).symm), fun h => absurd h.2.1 hc⟩

/-- A place on a line of a document is one of that line. -/
theorem exists_lineFrom_of_offsetOf? {p : Position} {o : Nat} (h : d.offsetOf? p = some o)
    (hline : p.line < d.lineCount) :
    ∃ l, lineFrom 0 0 d.lines p.line.toNat = some l ∧ l.number = p.line ∧
      0 ≤ p.character ∧ p.character ≤ l.text.length ∧ (o : Int) = l.start + p.character := by
  obtain ⟨⟨h0, hc0⟩, ⟨l, hl, hc, ho⟩ | ⟨hpast, -, -⟩⟩ := offsetOf?_eq_some.mp h
  · have hnumber := number_of_lineFrom hl
    exact ⟨l, hl, by omega, hc0, hc, by omega⟩
  · omega

/-- The position of an offset leads back to it. -/
theorem offsetOf?_of_positionOf {offset : Int} {p : Position} (h : d.positionOf offset = .ok p) :
    d.offsetOf? p = some offset.toNat := by
  have hreach := exists_positionOf_iff.mp ⟨p, h⟩
  obtain ⟨l, hl, rfl⟩ := exists_line_of_positionOf h
  have h0 := hreach.nonneg
  have hstart := (bounds_of_locateFrom hl (Nat.zero_le _)).1
  obtain ⟨-, -, -, -, -, hstop⟩ := exists_split_of_locateFrom hl
  rw [Line.stop] at hstop
  refine offsetOf?_eq_some.mpr ⟨⟨Int.natCast_nonneg _, ?_⟩, .inl ⟨l, ?_, ?_, ?_⟩⟩
  · dsimp only
    omega
  · exact lineFrom_of_locateFrom hl
  · dsimp only
    omega
  · dsimp only
    omega

theorem line_lt_of_positionOf {offset : Int} {p : Position} (h : d.positionOf offset = .ok p) :
    p.line < d.lineCount := by
  obtain ⟨l, hl, rfl⟩ := exists_line_of_positionOf h
  exact Int.ofNat_lt.mpr (lt_lineCount (lineFrom_of_locateFrom hl))

/-- A place on a line of a document is the position of its offset. -/
theorem positionOf_of_offsetOf? {p : Position} {o : Nat} (h : d.offsetOf? p = some o)
    (hline : p.line < d.lineCount) (hm : d.length ≤ Failure.maxCoordinate) :
    d.positionOf o = .ok p := by
  obtain ⟨l, hl, hnumber, hc0, hc, ho⟩ := exists_lineFrom_of_offsetOf? h hline
  have hlocate := locateFrom_of_lineFrom (c := p.character.toNat) hl (by omega)
  have hoffset : l.start + p.character.toNat = o := by omega
  rw [hoffset] at hlocate
  obtain ⟨q, hq⟩ := d.exists_positionOf (Int.natCast_nonneg o)
    (Int.ofNat_le.mpr (offsetOf?_le_length h)) hm
  obtain ⟨l', hl', hq'⟩ := exists_line_of_positionOf hq
  rw [Int.toNat_natCast, hlocate, Option.some_inj] at hl'
  have hpq : q = p := by
    rw [hq', ← hl']
    cases p
    simp only [Position.mk.injEq] at hnumber ho ⊢
    omega
  rwa [hpq] at hq

/-! ## The order -/

theorem le_iff {p q : Position} :
    p.le q = true ↔ p.line < q.line ∨ (p.line = q.line ∧ p.character ≤ q.character) := by
  simp [Position.le]

/-- On the lines of a document a later place has a larger offset. -/
theorem offsetOf?_lt {p q : Position} {i j : Nat} (hp : d.offsetOf? p = some i)
    (hq : d.offsetOf? q = some j) (hq' : q.line < d.lineCount) (hle : p.le q = true)
    (hne : p ≠ q) : i < j := by
  have hle := le_iff.mp hle
  obtain ⟨k, hk, -, hck, hik, hi⟩ := exists_lineFrom_of_offsetOf? hp (by omega)
  obtain ⟨l, hl, -, hcl, hil, hj⟩ := exists_lineFrom_of_offsetOf? hq hq'
  obtain hlt | ⟨hsame, hc⟩ := hle
  · obtain ⟨⟨h0, -⟩, -⟩ := offsetOf?_eq_some.mp hp
    have hstop := stop_lt_of_lineFrom hk hl (by omega)
    rw [Line.stop] at hstop
    omega
  · rw [hsame, hl, Option.some_inj] at hk
    have hcne : p.character ≠ q.character := fun h => hne (by cases p; cases q; simp_all)
    rw [← hk] at hi
    omega

/-- A later place that a document has, past its last line too, has no smaller offset. -/
theorem offsetOf?_mono {p q : Position} {i j : Nat} (hp : d.offsetOf? p = some i)
    (hq : d.offsetOf? q = some j) (hle : p.le q = true) : i ≤ j := by
  by_cases hq' : q.line < d.lineCount
  · by_cases hne : p = q
    · rw [hne, hq, Option.some_inj] at hp
      exact Nat.le_of_eq hp.symm
    · exact Nat.le_of_lt (offsetOf?_lt hp hq hq' hle hne)
  · -- the later place stands for the end
    obtain ⟨-, ⟨l, hl, -, -⟩ | ⟨-, -, rfl⟩⟩ := offsetOf?_eq_some.mp hq
    · cases hl.symm.trans (lineCount_le_iff.mp (by omega))
    · exact offsetOf?_le_length hp

theorem offsetsOf?_eq_some {r : Range} {i j : Nat} :
    d.offsetsOf? r = some (i, j) ↔ d.offsetOf? r.start = some i ∧ d.offsetOf? r.stop = some j := by
  unfold offsetsOf?
  cases d.offsetOf? r.start <;> cases d.offsetOf? r.stop <;> simp

/-- The line with a number, as far as there is one. -/
theorem line_eq_ok {n : Int} : d.line n = .ok l ↔ 0 ≤ n ∧ lineFrom 0 0 d.lines n.toNat = some l := by
  unfold line
  split
  · simp
    omega
  · split <;> simp_all

/-- The offsets of a document and the positions in it are one order. -/
structure Corresponds (d : Document) : Prop where
  /-- Each offset has a position on the lines, which leads back to it. -/
  position : ∀ o : Nat, o ≤ d.length →
    ∃ p, d.positionOf o = .ok p ∧ p.line < d.lineCount ∧ d.offsetOf? p = some o
  /-- Above its end a document has the places on its lines. -/
  isSome_iff : ∀ p : Position, p.line < d.lineCount → ((d.offsetOf? p).isSome = true ↔
    0 ≤ p.line ∧ 0 ≤ p.character ∧ ∃ l, d.line p.line = .ok l ∧ p.character ≤ l.text.length)
  /-- Each of these places is the position of its offset. -/
  offset : ∀ (p : Position) (o : Nat), p.line < d.lineCount → d.offsetOf? p = some o →
    d.positionOf o = .ok p
  /-- Of two of them the later one has the larger offset. -/
  strict : ∀ (p q : Position) (i j : Nat), p.line < d.lineCount → q.line < d.lineCount →
    d.offsetOf? p = some i → d.offsetOf? q = some j → p.le q = true → p ≠ q → i < j
  /-- Of all places that the document has, the later one has no smaller offset. -/
  mono : ∀ (p q : Position) (i j : Nat), d.offsetOf? p = some i → d.offsetOf? q = some j →
    p.le q = true → i ≤ j
  /-- All of them are inside the document. -/
  inside : ∀ (p : Position) (o : Nat), d.offsetOf? p = some o → o ≤ d.length
  /-- The offsets of a range are in order and inside the document. -/
  range : ∀ (r : Range) (i j : Nat), d.offsetsOf? r = some (i, j) → r.start.le r.stop = true →
    i ≤ j ∧ j ≤ d.length

/-- In a document that is short enough for its positions to be sent, offsets and positions are
one order. -/
theorem corresponds (d : Document) (short : d.length ≤ Failure.maxCoordinate) :
    d.Corresponds where
  position o ho := by
    obtain ⟨p, hp⟩ := d.exists_positionOf (Int.natCast_nonneg o) (Int.ofNat_le.mpr ho) short
    exact ⟨p, hp, line_lt_of_positionOf hp, offsetOf?_of_positionOf hp⟩
  isSome_iff p hline := by
    constructor
    · intro h
      obtain ⟨o, ho⟩ := Option.isSome_iff_exists.mp h
      obtain ⟨l, hl, -, hc0, hc, -⟩ := exists_lineFrom_of_offsetOf? ho hline
      have h0 := (offsetOf?_eq_some.mp ho).1.1
      exact ⟨h0, hc0, l, line_eq_ok.mpr ⟨h0, hl⟩, hc⟩
    · rintro ⟨h0, hc0, l, hl, hc⟩
      have hsome := offsetOf?_eq_some.mpr ⟨⟨h0, hc0⟩, .inl ⟨l, (line_eq_ok.mp hl).2, hc, rfl⟩⟩
      rw [hsome]
      rfl
  offset p o hline ho := positionOf_of_offsetOf? ho hline short
  strict p q i j _ hq' hp hq hle hne := offsetOf?_lt hp hq hq' hle hne
  mono p q i j hp hq hle := offsetOf?_mono hp hq hle
  inside p o ho := offsetOf?_le_length ho
  range r i j h hle := by
    obtain ⟨hi, hj⟩ := offsetsOf?_eq_some.mp h
    exact ⟨offsetOf?_mono hi hj hle, offsetOf?_le_length hj⟩

/-- A line that ends the document with nothing on it, and another one that holds a newline of its
own. -/
theorem corresponds_lines :
    (ofLines ["a".toList, "b\nc".toList, []]).length ≤ Failure.maxCoordinate ∧
      (ofLines ["a".toList, "b\nc".toList, []]).Corresponds :=
  ⟨by decide, corresponds _ (by decide)⟩

end EditorLink.Document
