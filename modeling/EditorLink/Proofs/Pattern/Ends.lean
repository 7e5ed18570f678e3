import EditorLink.Proofs.Pattern.Search

/-!
# Where matches end

A pattern matches pieces of a text, and from each place there may be several of them. They are
listed by where they end, the preferred one first. Matching with something to go on with tries
these ends in turn, so that a search finds a match if and only if some place has one.
-/
namespace EditorLink

namespace Cursor

/-- The text around a place. -/
def text (s : Cursor) : List Char := s.before.reverse ++ s.rest

/-- The place between two parts of a text, before any group has taken a piece. -/
def between (before rest : List Char) : Cursor := ⟨before.length, before.reverse, rest, []⟩

@[simp] theorem text_forth (s : Cursor) (n : Nat) : (s.forth n).text = s.text := by
  simp [text, forth, List.take_append_drop]

@[simp] theorem text_remember (s t : Cursor) (index : Nat) : (s.remember t index).text = t.text :=
  rfl

@[simp] theorem text_between (before rest : List Char) :
    (between before rest).text = before ++ rest := by
  simp [text, between]

end Cursor

namespace Pattern

/-! ## Rounds -/

/-- Where a fixed number of pieces in a row can end. -/
def exactlyEnds (ends : Cursor → List Cursor) : Nat → Cursor → List Cursor
  | 0, s => [s]
  | n + 1, s => (ends s).flatMap (exactlyEnds ends n)

/-- Where up to a number of pieces in a row can end, the most of them first or last. A piece
without characters is the last one. -/
def upToEnds (ends : Cursor → List Cursor) (isEager : Bool) : Nat → Cursor → List Cursor
  | 0, s => [s]
  | n + 1, s =>
    let more := (ends s).flatMap fun t =>
      if s.position < t.position then upToEnds ends isEager n t else [t]
    if isEager then more ++ [s] else s :: more

/-- Where a fixed number of preferred pieces in a row ends. -/
def settledEnd? (ends : Cursor → List Cursor) : Nat → Cursor → Option Cursor
  | 0, s => some s
  | n + 1, s => (ends s).head?.bind (settledEnd? ends n)

/-- Where as many preferred pieces in a row as there are end, up to a number. -/
def settledEnd (ends : Cursor → List Cursor) : Nat → Cursor → Cursor
  | 0, s => s
  | n + 1, s =>
    match (ends s).head? with
    | none => s
    | some t => if s.position < t.position then settledEnd ends n t else t

/-- Where between two numbers of pieces in a row can end. -/
def roundsEnds (ends : Cursor → List Cursor) (least : Nat) (most : Option Nat) :
    Appetite → Cursor → List Cursor
  | .possessive, s => ((settledEnd? ends least s).map fun t =>
      settledEnd ends (roundsBeyond least most t) t).toList
  | appetite, s => (exactlyEnds ends least s).flatMap fun t =>
      upToEnds ends (appetite = .eager) (roundsBeyond least most t) t

/-- Where the pieces of a pattern that start at a place can end, the preferred one first. -/
def ends : Pattern → Cursor → List Cursor
  | empty, s => [s]
  | one set, s => if s.rest.head?.any set.holds then [s.forth 1] else []
  | seq p q, s => (p.ends s).flatMap q.ends
  | alt p q, s => p.ends s ++ q.ends s
  | times p least most appetite, s => roundsEnds p.ends least most appetite s
  | place a, s => if s.isAt a then [s] else []
  | group index p, s => (p.ends s).map fun t => s.remember t index
  | again index rule, s => (s.groups.lookup index).toList.flatMap fun piece =>
    if (s.rest.take piece.length).map rule.fold = piece.map rule.fold then [s.forth piece.length]
    else []
  | given index yes no, s => if (s.groups.lookup index).isSome then yes.ends s else no.ends s
  | ahead p false, s => (p.ends s).head?.toList.map fun t => { s with groups := t.groups }
  | ahead p true, s => if p.ends s = [] then [s] else []
  | behind p width false, s =>
    if s.position < width then []
    else (p.ends (s.back width)).head?.toList.map fun t => { s with groups := t.groups }
  | behind p width true, s =>
    if s.position < width ∨ p.ends (s.back width) = [] then [s] else []
  | settled p, s => (p.ends s).head?.toList

/-! ## Matching tries the ends in turn -/

theorem findSome?_flatMap {α β γ : Type} (l : List α) (f : α → List β) (g : β → Option γ) :
    (l.flatMap f).findSome? g = l.findSome? fun a => (f a).findSome? g := by
  rw [← List.head?_filterMap, List.filterMap_flatMap, List.head?_flatMap]
  simp only [List.head?_filterMap]

theorem findSome?_some {α : Type} (l : List α) : l.findSome? some = l.head? := by
  rw [← List.head?_filterMap, List.filterMap_some]

theorem findSome?_toList {α β : Type} (o : Option α) (g : α → Option β) :
    o.toList.findSome? g = o.bind g := by
  cases o <;> simp

section
variable {body : Cursor → Goal → Option Cursor} {ends : Cursor → List Cursor}

theorem exactly_eq (h : ∀ s next, body s next = (ends s).findSome? next) (n : Nat) (s : Cursor)
    (next : Goal) : exactly body n s next = (exactlyEnds ends n s).findSome? next := by
  induction n generalizing s with
  | zero => simp [exactly, exactlyEnds]
  | succ n ih => simp only [exactly, exactlyEnds, h, ih, findSome?_flatMap]

theorem upTo_eq (h : ∀ s next, body s next = (ends s).findSome? next) (isEager : Bool) (n : Nat)
    (s : Cursor) (next : Goal) :
    upTo body isEager n s next = (upToEnds ends isEager n s).findSome? next := by
  induction n generalizing s with
  | zero => simp [upTo, upToEnds]
  | succ n ih =>
    have hmore : (body s fun t => if s.position < t.position then upTo body isEager n t next
        else next t) = ((ends s).flatMap fun t =>
          if s.position < t.position then upToEnds ends isEager n t else [t]).findSome? next := by
      rw [h, findSome?_flatMap]
      refine congrArg (fun g => (ends s).findSome? g) (funext fun t => ?_)
      split
      · exact ih t
      · simp
    simp only [upTo, upToEnds, hmore]
    cases isEager with
    | true => simp [List.findSome?_append]
    | false => cases hnext : next s <;> simp [hnext]

theorem settledTimes_eq (h : ∀ s next, body s next = (ends s).findSome? next) (n : Nat)
    (s : Cursor) : settledTimes body n s = settledEnd? ends n s := by
  induction n generalizing s with
  | zero => rfl
  | succ n ih => rw [settledTimes, settledEnd?, h, findSome?_some, funext ih]

theorem settledUpTo_eq (h : ∀ s next, body s next = (ends s).findSome? next) (n : Nat)
    (s : Cursor) : settledUpTo body n s = settledEnd ends n s := by
  induction n generalizing s with
  | zero => rfl
  | succ n ih =>
    rw [settledUpTo, settledEnd, h, findSome?_some]
    cases (ends s).head? with
    | none => rfl
    | some t => simp only [ih]

theorem rounds_eq (h : ∀ s next, body s next = (ends s).findSome? next) (least : Nat)
    (most : Option Nat) (appetite : Appetite) (s : Cursor) (next : Goal) :
    rounds body least most appetite s next =
      (roundsEnds ends least most appetite s).findSome? next := by
  cases appetite with
  | possessive =>
    simp only [rounds, roundsEnds, findSome?_toList, settledTimes_eq h, settledUpTo_eq h,
      Option.bind_map]
    rfl
  | eager | reluctant =>
    simp only [rounds, roundsEnds, exactly_eq h, upTo_eq h, findSome?_flatMap]

end

/-- Matching a pattern tries what comes next at each of its ends, in their order. -/
theorem run_eq (p : Pattern) (s : Cursor) (next : Goal) :
    p.run s next = (p.ends s).findSome? next := by
  induction p generalizing s next with
  | empty => simp [run, ends]
  | one set =>
    obtain ⟨position, before, rest, groups⟩ := s
    cases rest with
    | nil => simp [run, ends]
    | cons c more =>
      rw [run, ends]
      cases hc : set.holds c <;> simp [hc, Cursor.forth]
  | seq p q ihp ihq => simp only [run, ends, ihp, ihq, findSome?_flatMap]
  | alt p q ihp ihq =>
    rw [run, ends, ihp, ihq, List.findSome?_append, Option.or_eq_orElse]
  | times p least most appetite ih => exact rounds_eq ih least most appetite s next
  | place a =>
    rw [run, ends]
    split <;> simp
  | group index p ih =>
    rw [run, ends, ih, List.findSome?_map]
    rfl
  | again index rule =>
    rw [run, ends, findSome?_flatMap, findSome?_toList]
    refine congrArg (Option.bind _) (funext fun piece => ?_)
    rw [repeatText]
    split <;> simp_all
  | given index yes no ihy ihn =>
    rw [run, ends, ihy, ihn]
    split <;> rfl
  | ahead p negated ih =>
    cases negated with
    | false =>
      rw [run, ends, ih, findSome?_some, List.findSome?_map, findSome?_toList]
      rfl
    | true =>
      rw [run, ends, ih, findSome?_some]
      cases p.ends s <;> simp
  | behind p width negated ih =>
    cases negated with
    | false =>
      rw [run, ends, ih, findSome?_some]
      split
      · rfl
      · rw [List.findSome?_map, findSome?_toList]
        rfl
    | true =>
      rw [run, ends, ih, findSome?_some]
      by_cases hw : s.position < width
      · simp [hw, Nat.not_le.mpr hw]
      · cases p.ends (s.back width) <;> simp [hw, Nat.not_lt.mp hw]
  | settled p ih => rw [run, ends, ih, findSome?_some, findSome?_toList]

/-! ## Places of one text -/

section
variable {ends : Cursor → List Cursor} {P : Cursor → Prop} {s t : Cursor} {n : Nat}

theorem forall_mem_exactlyEnds (h : ∀ s, P s → ∀ t ∈ ends s, P t) (hs : P s)
    (ht : t ∈ exactlyEnds ends n s) : P t := by
  induction n generalizing s with
  | zero => exact List.mem_singleton.mp ht ▸ hs
  | succ n ih =>
    obtain ⟨u, hu, hrest⟩ := List.mem_flatMap.mp ht
    exact ih (h s hs u hu) hrest

theorem forall_mem_upToEnds (h : ∀ s, P s → ∀ t ∈ ends s, P t) {isEager : Bool} (hs : P s)
    (ht : t ∈ upToEnds ends isEager n s) : P t := by
  induction n generalizing s with
  | zero => exact List.mem_singleton.mp ht ▸ hs
  | succ n ih =>
    have hmore : t = s ∨ t ∈ (ends s).flatMap fun u =>
        if s.position < u.position then upToEnds ends isEager n u else [u] := by
      cases isEager <;> simpa [upToEnds, or_comm] using ht
    obtain rfl | hmore := hmore
    · exact hs
    · obtain ⟨u, hu, hrest⟩ := List.mem_flatMap.mp hmore
      split at hrest
      · exact ih (h s hs u hu) hrest
      · exact List.mem_singleton.mp hrest ▸ h s hs u hu

theorem settledEnd?_keeps (h : ∀ s, P s → ∀ t ∈ ends s, P t) (hs : P s)
    (ht : settledEnd? ends n s = some t) : P t := by
  induction n generalizing s with
  | zero => exact Option.some.inj ht ▸ hs
  | succ n ih =>
    obtain ⟨u, hu, hrest⟩ := Option.bind_eq_some_iff.mp ht
    exact ih (h s hs u (List.mem_of_mem_head? hu)) hrest

theorem settledEnd_keeps (h : ∀ s, P s → ∀ t ∈ ends s, P t) (hs : P s) :
    P (settledEnd ends n s) := by
  induction n generalizing s with
  | zero => exact hs
  | succ n ih =>
    rw [settledEnd]
    split
    · exact hs
    · rename_i u hu
      have hkept := h s hs u (List.mem_of_mem_head? hu)
      split
      · exact ih hkept
      · exact hkept

theorem forall_mem_roundsEnds (h : ∀ s, P s → ∀ t ∈ ends s, P t) {least : Nat}
    {most : Option Nat} {appetite : Appetite} (hs : P s)
    (ht : t ∈ roundsEnds ends least most appetite s) : P t := by
  cases appetite with
  | possessive =>
    obtain ⟨u, hu, rfl⟩ := Option.map_eq_some_iff.mp (Option.mem_toList.mp ht)
    exact settledEnd_keeps h (settledEnd?_keeps h hs hu)
  | eager | reluctant =>
    obtain ⟨u, hu, hrest⟩ := List.mem_flatMap.mp ht
    exact forall_mem_upToEnds h (forall_mem_exactlyEnds h hs hu) hrest

end

/-- A match ends in the text in which it starts. -/
theorem text_of_mem_ends {p : Pattern} {s t : Cursor} (h : t ∈ p.ends s) : t.text = s.text := by
  induction p generalizing s t with
  | empty => rw [List.mem_singleton.mp h]
  | one set =>
    rw [ends] at h
    split at h
    · rw [List.mem_singleton.mp h, Cursor.text_forth]
    · cases h
  | seq p q ihp ihq =>
    obtain ⟨u, hu, hrest⟩ := List.mem_flatMap.mp h
    rw [ihq hrest, ihp hu]
  | alt p q ihp ihq =>
    obtain h | h := List.mem_append.mp h
    · exact ihp h
    · exact ihq h
  | times p least most appetite ih =>
    exact forall_mem_roundsEnds (P := fun t => t.text = s.text)
      (fun u hu v hv => (ih hv).trans hu) rfl h
  | place a =>
    rw [ends] at h
    split at h
    · rw [List.mem_singleton.mp h]
    · cases h
  | group index p ih =>
    obtain ⟨u, hu, rfl⟩ := List.mem_map.mp h
    rw [Cursor.text_remember, ih hu]
  | again index rule =>
    obtain ⟨piece, -, h⟩ := List.mem_flatMap.mp h
    split at h
    · rw [List.mem_singleton.mp h, Cursor.text_forth]
    · cases h
  | given index yes no ihy ihn =>
    rw [ends] at h
    split at h
    · exact ihy h
    · exact ihn h
  | ahead p negated ih =>
    cases negated with
    | false =>
      obtain ⟨u, -, rfl⟩ := List.mem_map.mp h
      rfl
    | true =>
      rw [ends] at h
      split at h
      · rw [List.mem_singleton.mp h]
      · cases h
  | behind p width negated ih =>
    cases negated with
    | false =>
      rw [ends] at h
      split at h
      · cases h
      · obtain ⟨u, -, rfl⟩ := List.mem_map.mp h
        rfl
    | true =>
      rw [ends] at h
      split at h
      · rw [List.mem_singleton.mp h]
      · cases h
  | settled p ih => exact ih (List.mem_of_mem_head? (Option.mem_toList.mp h))

/-! ## Matches in a text -/

/-- A text has a match of a pattern that ends where the text ends. -/
def MatchesEnd (p : Pattern) (text : List Char) : Prop :=
  ∃ before rest, text = before ++ rest ∧ ∃ t ∈ p.ends (.between before rest), t.rest = []

theorem matchesEnd_iff_any (p : Pattern) (text : List Char) :
    p.MatchesEnd text ↔ ((List.range (text.length + 1)).any fun n =>
      (p.ends (.between (text.take n) (text.drop n))).any (·.rest = [])) = true := by
  simp only [List.any_eq_true, decide_eq_true_eq]
  constructor
  · rintro ⟨before, rest, rfl, hends⟩
    refine ⟨before.length, List.mem_range.mpr ?_, ?_⟩
    · rw [List.length_append]
      omega
    · simpa using hends
  · rintro ⟨n, -, hends⟩
    exact ⟨_, _, (List.take_append_drop n text).symm, hends⟩

instance (p : Pattern) (text : List Char) : Decidable (p.MatchesEnd text) :=
  decidable_of_iff _ (matchesEnd_iff_any p text).symm

theorem isSome_run_some (p : Pattern) (s : Cursor) :
    (p.run s some).isSome = true ↔ p.ends s ≠ [] := by
  rw [run_eq, findSome?_some, List.isSome_head?]

/-- A search finds something if a match starts anywhere. -/
theorem isSome_searchFrom (p : Pattern) (passed text : List Char) :
    (p.searchFrom passed.length passed text).isSome = true ↔
      ∃ before rest, text = before ++ rest ∧
        p.ends (.between (passed.reverse ++ before) rest) ≠ [] := by
  have hplace (passed rest : List Char) : (⟨passed.length, passed, rest, []⟩ : Cursor) =
      .between (passed.reverse ++ []) rest := by
    simp [Cursor.between]
  induction text generalizing passed with
  | nil =>
    rw [searchFrom, Option.isSome_map, isSome_run_some, hplace]
    simp
  | cons c more ih =>
    have hcons : (∃ before rest, c :: more = before ++ rest ∧
        p.ends (.between (passed.reverse ++ before) rest) ≠ []) ↔
        p.ends (.between (passed.reverse ++ []) (c :: more)) ≠ [] ∨
          ∃ before rest, more = before ++ rest ∧
            p.ends (.between ((c :: passed).reverse ++ before) rest) ≠ [] := by
      simp only [List.reverse_cons, List.append_assoc, List.singleton_append]
      constructor
      · rintro ⟨before, rest, hsplit, hends⟩
        cases before with
        | nil => exact .inl (by rwa [hsplit])
        | cons d before =>
          obtain ⟨rfl, hmore⟩ := List.cons.inj hsplit
          exact .inr ⟨before, rest, hmore, hends⟩
      · rintro (hends | ⟨before, rest, rfl, hends⟩)
        · exact ⟨[], c :: more, rfl, hends⟩
        · exact ⟨c :: before, rest, rfl, hends⟩
    have hrun := isSome_run_some p ⟨passed.length, passed, c :: more, []⟩
    rw [hplace] at hrun
    rw [searchFrom, hcons, ← hrun, ← hplace]
    cases p.run ⟨passed.length, passed, c :: more, []⟩ some with
    | some t => simp
    | none => simpa using ih (c :: passed)

/-- On a line a search for an anchored pattern finds a match of the pattern up to the end. -/
theorem found_anchored_iff (p : Pattern) {text : List Char} (h : '\n' ∉ text) :
    p.anchored.found text = true ↔ p.MatchesEnd text := by
  have hsearch := isSome_searchFrom p.anchored [] text
  rw [found, search]
  refine hsearch.trans (exists_congr fun before => exists_congr fun rest => and_congr_right ?_)
  rintro rfl
  rw [List.reverse_nil, List.nil_append, anchored, ends]
  simp only [ne_eq, List.flatMap_eq_nil_iff, not_forall, exists_prop]
  refine exists_congr fun t => and_congr_right fun ht => ?_
  have hplain : '\n' ∉ t.rest := by
    have htext := text_of_mem_ends ht
    rw [Cursor.text_between] at htext
    exact fun hn => h (htext ▸ List.mem_append_right _ hn)
  rw [ends, Cursor.isAt_lastLineEnd hplain]
  simp

end Pattern
end EditorLink
