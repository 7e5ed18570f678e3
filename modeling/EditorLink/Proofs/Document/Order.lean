import EditorLink.Diagnostic
import EditorLink.Proofs.Document.Places

/-!
# Diagnostics in order

What a server finds in a document starts inside it, and what starts later has no earlier
position. So diagnostics that are sorted by where they start are told in the order of their
positions, each of them on a line of its own, also in a document that has grown out of the
empty one since they were found.
-/
namespace EditorLink.Document
variable {d : Document}

/-! ## Offsets inside a document -/

theorem stop_le_of_lineFrom {lines : List (List Char)} {number start n : Nat} {l : Line}
    (h : lineFrom number start lines n = some l) : l.stop ≤ start + extent lines := by
  induction lines generalizing number start n with
  | nil => simp [lineFrom] at h
  | cons line rest ih =>
    cases n with
    | zero =>
      rw [lineFrom, Option.some.injEq] at h
      subst h
      cases rest with
      | nil => exact Nat.le_refl _
      | cons next more => simp only [Line.stop, extent]; omega
    | succ n =>
      rw [lineFrom] at h
      have hl := ih h
      cases rest with
      | nil => simp [lineFrom] at h
      | cons next more => simp only [extent] at hl ⊢; omega

/-- A position that a document has lies inside it. -/
theorem offsetOf?_le_length {p : Position} {offset : Nat} (h : d.offsetOf? p = some offset) :
    offset ≤ d.length := by
  unfold offsetOf? at h
  split at h
  · cases h
  · split at h
    · split at h <;> cases h
      exact Nat.le_refl _
    · rename_i l hl
      split at h <;> cases h
      have hstop := stop_le_of_lineFrom hl
      simp only [Line.stop] at hstop
      rw [length]
      omega

theorem number_le_of_locateFrom {lines : List (List Char)} {number start offset : Nat} {l : Line}
    (h : locateFrom number start lines offset = some l) : number ≤ l.number := by
  induction lines generalizing number start with
  | nil => cases h
  | cons line rest ih =>
    rw [locateFrom] at h
    split at h
    · cases h
      exact Nat.le_refl _
    · exact Nat.le_trans (Nat.le_succ _) (ih h)

/-- A later offset lies on a later line, or on the same one. -/
theorem locateFrom_mono {lines : List (List Char)} {number start i j : Nat} {k l : Line}
    (hk : locateFrom number start lines i = some k) (hl : locateFrom number start lines j = some l)
    (h : i ≤ j) : k = l ∨ k.number < l.number := by
  induction lines generalizing number start with
  | nil => cases hk
  | cons line rest ih =>
    rw [locateFrom] at hk hl
    by_cases hj : j ≤ start + line.length
    · rw [if_pos (Nat.le_trans h hj)] at hk
      rw [if_pos hj] at hl
      exact .inl (Option.some.inj (hk.symm.trans hl))
    · rw [if_neg hj] at hl
      by_cases hi : i ≤ start + line.length
      · rw [if_pos hi] at hk
        cases hk
        exact .inr (number_le_of_locateFrom hl)
      · rw [if_neg hi] at hk
        exact ih hk hl

theorem exists_line_of_positionOf {offset : Int} {p : Position} (h : d.positionOf offset = .ok p) :
    ∃ l, locateFrom 0 0 d.lines offset.toNat = some l ∧ p = ⟨l.number, offset - l.start⟩ := by
  unfold positionOf lineAt at h
  split at h
  · cases h
  · split at h
    · rename_i l hl
      refine ⟨l, hl, ?_⟩
      simp only [bind, Except.bind, Position.sendable] at h
      split at h
      · cases h
      · split at h <;> cases h
        rfl
    · cases h

/-- A later offset has no earlier position. -/
theorem positionOf_mono {i j : Int} {p q : Position} (hp : d.positionOf i = .ok p)
    (hq : d.positionOf j = .ok q) (h : i ≤ j) : p.le q = true := by
  obtain ⟨k, hk, rfl⟩ := exists_line_of_positionOf hp
  obtain ⟨l, hl, rfl⟩ := exists_line_of_positionOf hq
  obtain rfl | hlt := locateFrom_mono hk hl (Int.toNat_le_toNat h)
  · simp [Position.le, h]
  · simp [Position.le, hlt]

/-! ## Diagnostics inside a document -/

/-- A diagnostic starts inside a document. -/
def Holds (d : Document) (g : Diagnostic) : Prop := 0 ≤ g.start ∧ g.start ≤ d.length

/-- One diagnostic has no later position than another. -/
def Precedes (d : Document) (g h : Diagnostic) : Prop :=
  ∀ p q, d.positionOf g.start = .ok p → d.positionOf h.start = .ok q → p.le q = true

theorem pairwise_diagnostics (d : Document) (findings : List Finding) :
    (d.diagnostics findings).Pairwise fun g h => g.start ≤ h.start := by
  have hsorted : (d.diagnostics findings).Pairwise fun g h => decide (g.start ≤ h.start) = true :=
    List.pairwise_mergeSort (fun _ _ _ => by simpa using Int.le_trans)
      (fun _ _ => by simpa using Int.le_total _ _) _
  exact hsorted.imp of_decide_eq_true

/-- Whatever a server finds in a document is shown inside it. -/
theorem holds_diagnostics (d : Document) (findings : List Finding) :
    ∀ g ∈ d.diagnostics findings, d.Holds g := by
  intro g hg
  obtain ⟨f, -, hf⟩ := List.mem_filterMap.mp (List.mem_mergeSort.mp hg)
  obtain ⟨⟨start, stop⟩, hoffsets, rfl⟩ := Option.map_eq_some_iff.mp hf
  obtain ⟨first, hfirst, hrest⟩ := Option.bind_eq_some_iff.mp hoffsets
  obtain ⟨last, -, hends⟩ := Option.bind_eq_some_iff.mp hrest
  cases hends
  have hlen := offsetOf?_le_length hfirst
  exact ⟨Int.natCast_nonneg _, Int.ofNat_le.mpr hlen⟩

/-- What was found in the empty document lies inside every document. -/
theorem holds_of_empty {g : Diagnostic} (h : empty.Holds g) (d : Document) : d.Holds g := by
  obtain ⟨h0, h1⟩ := h
  have hstart : g.start = 0 := Int.le_antisymm h1 h0
  exact ⟨h0, by rw [hstart]; exact Int.natCast_nonneg _⟩

/-- Diagnostics inside a document are reported, each of them, unless the document is too long for
positions that can be sent. -/
theorem exists_reports {shown : List Diagnostic} (path : String) (h : ∀ g ∈ shown, d.Holds g)
    (hm : d.length ≤ Failure.maxCoordinate) : ∃ lines, shown.mapM (d.report path) = .ok lines := by
  refine exists_mapM fun g hg => ?_
  obtain ⟨h0, hl⟩ := h g hg
  obtain ⟨p, hp⟩ := d.exists_positionOf h0 hl hm
  exact ⟨_, by rw [report, hp]; rfl⟩

/-- Diagnostics that are sorted by where they start are in the order of their positions. -/
theorem pairwise_precedes {shown : List Diagnostic}
    (h : shown.Pairwise fun g h => g.start ≤ h.start) : shown.Pairwise d.Precedes :=
  h.imp fun hle _ _ hp hq => positionOf_mono hp hq hle

end EditorLink.Document
