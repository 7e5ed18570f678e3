import EditorLink.Proofs.Document.Serving

/-!
# Where inserted characters land

Splices name offsets of the text that they change. In the new text, what a splice inserts stands
further down by as much as the splices in front of it make the text grow, or further up by as much
as they make it shrink.
-/
namespace EditorLink.Splice
variable {text old new : List Char} {splices first second : List Splice} {s : Splice} {c : Char}
  {k : Nat}

/-- By how many characters splices make a text grow. -/
def growth : List Splice → Int
  | [] => 0
  | s :: rest => s.inserted.length - (s.stop - s.start) + growth rest

/-- Splices insert a character that stands right before an offset of the new text. Up to there the
new text is what the splices in front of one of them make of the text above it, and a beginning of
what that one inserts. -/
def InsertsBefore (splices : List Splice) (old new : List Char) (c : Char) (offset : Nat) : Prop :=
  ∃ first k s second, splices = first ++ s :: second ∧ s.inserted[k]? = some c ∧
    new.take offset = applyAtOnce first (old.take s.start.toNat) ++ s.inserted.take (k + 1)

/-- A character lands at an offset of the new text: it is number `k` of what the splice behind
`first` inserts, and the text above it has grown. -/
def Lands (splices first : List Splice) (k : Nat) (c : Char) (offset : Int) : Prop :=
  ∃ s second, splices = first ++ s :: second ∧ s.inserted[k]? = some c ∧
    offset = s.start + growth first + k

/-- The character in question is the last one before the offset. -/
theorem InsertsBefore.getLast? {offset : Nat} (h : InsertsBefore splices old new c offset) :
    (new.take offset).getLast? = some c := by
  obtain ⟨first, k, s, second, -, hk, htake⟩ := h
  rw [htake, List.take_add_one, hk]
  simp

theorem AscendingFrom.of_append {offset : Int} (h : AscendingFrom offset (first ++ s :: second)) :
    AscendingFrom offset first ∧ ∀ r ∈ first, r.stop ≤ s.start := by
  induction first generalizing offset with
  | nil => exact ⟨trivial, nofun⟩
  | cons r rest ih =>
    obtain ⟨h0, h1, hrest⟩ := h
    obtain ⟨hasc, hstops⟩ := ih hrest
    refine ⟨⟨h0, h1, hasc⟩, List.forall_mem_cons.mpr ⟨?_, hstops⟩⟩
    exact (hrest.bounds s (by simp)).1

/-- A batch falls into what is in front of one of its splices, that splice, and what is behind. -/
theorem applyFrom_append {offset : Nat} (h : AscendingFrom offset (first ++ s :: second)) :
    applyFrom offset (first ++ s :: second) text =
      applyFrom offset first (text.take (s.start.toNat - offset)) ++
        (s.inserted ++ applyFrom s.stop.toNat second (text.drop (s.stop.toNat - offset))) := by
  induction first generalizing offset text with
  | nil => simp [applyFrom]
  | cons r rest ih =>
    obtain ⟨h0, h1, hrest⟩ := h
    have hstop : ((r.stop.toNat : Nat) : Int) = r.stop := by omega
    obtain ⟨h2, h3⟩ := hrest.bounds s (by simp)
    have hcut : (text.drop (r.stop.toNat - offset)).take (s.start.toNat - r.stop.toNat) =
        (text.take (s.start.toNat - offset)).drop (r.stop.toNat - offset) := by
      rw [List.drop_take]
      congr 1
      omega
    have hbehind : (text.drop (r.stop.toNat - offset)).drop (s.stop.toNat - r.stop.toNat) =
        text.drop (s.stop.toNat - offset) := by
      rw [List.drop_drop]
      congr 1
      omega
    have habove : (text.take (s.start.toNat - offset)).take (r.start.toNat - offset) =
        text.take (r.start.toNat - offset) := by
      rw [List.take_take, Nat.min_eq_left (by omega)]
    rw [List.cons_append, applyFrom, @ih _ r.stop.toNat (by rwa [hstop]), hcut, hbehind, applyFrom,
      habove]
    simp only [List.append_assoc]

/-- Splices make the text grow by as much as they insert more than they replace. -/
theorem length_applyFrom {offset : Nat} (h : AscendingFrom offset splices)
    (inside : ∀ s ∈ splices, s.stop ≤ offset + text.length) :
    ((applyFrom offset splices text).length : Int) = text.length + growth splices := by
  induction splices generalizing offset text with
  | nil => simp [applyFrom, growth]
  | cons s rest ih =>
    obtain ⟨h0, h1, hrest⟩ := h
    have hin := inside s List.mem_cons_self
    have hstop : ((s.stop.toNat : Nat) : Int) = s.stop := by omega
    have hbelow := @ih (text.drop (s.stop.toNat - offset)) s.stop.toNat (by rwa [hstop])
      fun r hr => by
        have := inside r (List.mem_cons_of_mem _ hr)
        rw [List.length_drop]
        omega
    rw [List.length_drop] at hbelow
    rw [applyFrom, List.length_append, List.length_append, List.length_take, growth]
    omega

/-- What the splices in front of one make of the text above it is longer than that text by as much
as they make it grow. -/
theorem length_applyAtOnce_above (h : AscendingFrom 0 (first ++ s :: second))
    (within : s.start ≤ old.length) :
    ((applyAtOnce first (old.take s.start.toNat)).length : Int) = s.start + growth first := by
  obtain ⟨hasc, hstops⟩ := h.of_append
  have h0 := (h.bounds s (by simp)).1
  have hlength : ((old.take s.start.toNat).length : Int) = s.start := by
    rw [List.length_take]
    omega
  have hgrows := @length_applyFrom (old.take s.start.toNat) first 0 hasc fun r hr => by
    have := hstops r hr
    omega
  rw [applyAtOnce, hgrows, hlength]

/-- A character that a splice inserts stands right before an offset of the new text exactly if the
offset is further down than the one in the old text by as much as the text grows above. -/
theorem take_applyAtOnce_iff {offset : Nat} (h : AscendingFrom 0 (first ++ s :: second))
    (within : s.start ≤ old.length) (hnew : new = applyAtOnce (first ++ s :: second) old)
    (hoffset : offset ≤ new.length) (hk : k < s.inserted.length) :
    new.take offset = applyAtOnce first (old.take s.start.toNat) ++ s.inserted.take (k + 1) ↔
      (offset : Int) = s.start + growth first + k + 1 := by
  have hlength := length_applyAtOnce_above h within
  have hsplit : new = applyAtOnce first (old.take s.start.toNat) ++
      (s.inserted ++ applyFrom s.stop.toNat second (old.drop s.stop.toNat)) := by
    rw [hnew]
    exact applyFrom_append h
  constructor
  · intro htake
    have hlengths := congrArg List.length htake
    rw [List.length_take, List.length_append, List.length_take] at hlengths
    omega
  · intro hat
    have hsum : offset = (applyAtOnce first (old.take s.start.toNat)).length + (k + 1) := by omega
    rw [hsplit, hsum, List.take_length_add_append, List.take_append_of_le_length hk]

/-- A character is inserted right before an offset exactly if it lands there. -/
theorem insertsBefore_iff {offset : Nat} (ascending : AscendingFrom 0 splices)
    (inside : ∀ s ∈ splices, s.stop ≤ old.length) (hnew : new = applyAtOnce splices old)
    (hoffset : offset ≤ new.length) :
    InsertsBefore splices old new c offset ↔ ∃ first k, Lands splices first k c (offset - 1) := by
  refine exists₂_congr fun first k => exists₂_congr fun s second =>
    and_congr_right fun hsplices => and_congr_right fun hk => ?_
  subst hsplices
  have hin := inside s (by simp)
  have hordered := (ascending.bounds s (by simp)).2
  rw [take_applyAtOnce_iff ascending (by omega) hnew hoffset (List.getElem?_eq_some_iff.mp hk).1]
  omega

/-- A character stands as far behind the start of its splice in the new text as in what the splice
inserts, exactly if the text does not grow above; unless it is inserted there elsewhere too. -/
theorem insertsBefore_start_iff {offset : Nat} (ascending : AscendingFrom 0 splices)
    (inside : ∀ s ∈ splices, s.stop ≤ old.length) (hnew : new = applyAtOnce splices old)
    (hoffset : offset ≤ new.length) (hsplices : splices = first ++ s :: second)
    (hk : s.inserted[k]? = some c) (hat : (offset : Int) = s.start + k + 1) :
    InsertsBefore splices old new c offset ↔ growth first = 0 ∨
      ∃ other l, (other ≠ first ∨ l ≠ k) ∧ Lands splices other l c (s.start + k) := by
  have hbefore : (offset : Int) - 1 = s.start + k := by omega
  rw [insertsBefore_iff ascending inside hnew hoffset, hbefore]
  constructor
  · rintro ⟨other, l, hlands⟩
    by_cases hsame : other = first ∧ l = k
    · obtain ⟨rfl, rfl⟩ := hsame
      obtain ⟨r, more, hother, -, hl⟩ := hlands
      have htail := List.append_cancel_left (hsplices.symm.trans hother)
      cases htail
      exact .inl (by omega)
    · exact .inr ⟨other, l, by tauto, hlands⟩
  · rintro (hgrowth | ⟨other, l, -, hlands⟩)
    · exact ⟨first, k, s, second, hsplices, hk, by omega⟩
    · exact ⟨other, l, hlands⟩

end EditorLink.Splice
