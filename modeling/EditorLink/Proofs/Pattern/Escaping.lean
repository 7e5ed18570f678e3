import EditorLink.Proofs.Pattern.Enclosing
import EditorLink.Proofs.Pattern.Search

/-!
# Texts written as patterns

Where a text is written as a pattern of itself, it is read as the text, character by character,
whatever its characters mean otherwise. So are several texts as alternatives.
-/
namespace EditorLink.Pattern

/-- The sign of a character that stands for itself. -/
def signOf (c : Char) : Sign := if special.contains c then .escaped c else .plain c

theorem signs_escape (text tail : List Char) :
    signs (escape text ++ tail) = text.map signOf ++ signs tail := by
  induction text with
  | nil => rfl
  | cons c rest ih =>
    by_cases hc : c ∈ special
    · simpa [escape, signOf, hc, signs] using ih
    · have hslash : c ≠ '\\' := by
        rintro rfl
        exact hc (by decide)
      simpa [escape, signOf, hc, signs, hslash] using ih

/-- What follows the first of several texts that are written as alternatives. -/
def moreSigns (texts : List (List Char)) : List Sign :=
  texts.flatMap fun text => .plain '|' :: text.map signOf

theorem signs_alternatives (text : List Char) (texts : List (List Char)) :
    signs (alternatives ((text :: texts).map escape)) = text.map signOf ++ moreSigns texts := by
  induction texts generalizing text with
  | nil => simpa [alternatives, moreSigns, signs] using signs_escape text []
  | cons other texts ih =>
    have hcons : alternatives ((text :: other :: texts).map escape) =
        escape text ++ '|' :: alternatives ((other :: texts).map escape) := by
      simp [alternatives, List.intercalate]
    rw [hcons, signs_escape, signs, ih other]
    · rfl
    · simp
    · simp

/-- Behind a backslash every character stands for itself that is neither a letter nor a digit. -/
theorem readEscape_sign (w : Switches) {c : Char} (hc : c.isAlphanum = false) :
    readEscape w c = pure ⟨ofCode w c.toNat, true⟩ := by
  have hne {e : Char} (he : e.isAlphanum = true) : c ≠ e := by
    rintro rfl
    simp [hc] at he
  have hanchor : anchorOf? w.isPlain c = none := by
    unfold anchorOf?
    split <;> first | rfl | exact absurd rfl (hne (by decide))
  have hkind : kindOf? w.isPlain c = none := by
    unfold kindOf?
    split <;> first | rfl | exact absurd rfl (hne (by decide))
  have hcontrol : controlOf? c = none := by
    rw [controlOf?, List.lookup_eq_none_iff]
    simp only [List.forall_mem_cons, bne_iff_ne]
    exact ⟨hne (by decide), hne (by decide), hne (by decide), hne (by decide), hne (by decide),
      hne (by decide), by simp⟩
  have hdigit : c.isDigit = false := by
    rw [Char.isAlphanum, Bool.or_eq_false_iff] at hc
    exact hc.2
  have hescaped : readEscaped c = pure c.toNat := by
    unfold readEscaped
    rw [hcontrol]
    dsimp only
    split
    · exact absurd rfl (hne (by decide))
    · exact absurd rfl (hne (by decide))
    · exact absurd rfl (hne (by decide))
    · rw [hc]
      rfl
  rw [readEscape, hanchor, hkind]
  dsimp only
  rw [hdigit, hescaped]
  rfl

theorem isAlphanum_special {c : Char} (hc : c ∈ special) : c.isAlphanum = false := by
  have hall : special.all (!·.isAlphanum) = true := by decide
  simpa using List.all_eq_true.mp hall c hc

theorem readRepetition_other {c : Char} (hc : c ∉ special) :
    readRepetition c = pure none := by
  unfold readRepetition
  split
  all_goals first | rfl | exact absurd (by decide) hc

theorem readPlain_other {c : Char} (hc : c ∉ special) : readPlain .none c = ⟨char c, true⟩ := by
  unfold readPlain
  split
  all_goals first | rfl | exact absurd (by decide) hc

theorem readSequence_signOf (n : Nat) (items : List Item) (c : Char) (d : Draft) {rest : List Sign}
    (hd : d.rest = signOf c :: rest) :
    readSequence (n + 1) .none items d =
      readSequence n .none (⟨char c, true⟩ :: items) { d with rest := rest } := by
  obtain ⟨_, groups, names, fence, asked⟩ := d
  obtain rfl := hd
  rw [readSequence]
  by_cases hc : c ∈ special
  · rw [signOf, if_pos (by simpa using hc), bind_of_ok rfl, if_neg (by simp), bind_of_ok rfl]
    dsimp only
    rw [readEscape_sign _ (isAlphanum_special hc)]
    rfl
  · have hne {e : Char} (he : e ∈ special) : c ≠ e := fun h => hc (h ▸ he)
    have hbar : c ≠ '|' := hne (by decide)
    have hclose : c ≠ ')' := hne (by decide)
    have hopen : c ≠ '(' := hne (by decide)
    have hset : c ≠ '[' := hne (by decide)
    rw [signOf, if_neg (by simpa using hc), bind_of_ok rfl, if_neg (by simp [hbar, hclose]),
      bind_of_ok rfl]
    dsimp only
    rw [if_neg (by simp [Switches.none]), if_neg (by simp [Switches.none]), if_neg hopen,
      if_neg hset, readRepetition_other hc, readPlain_other hc]
    rfl

theorem ofItems_literal (text : List Char) :
    ofItems (text.map (⟨char ·, true⟩)).reverse = literal text := by
  rw [ofItems, List.reverse_reverse]
  cases text with
  | nil => rfl
  | cons c rest => simp [literal, List.foldl_map]

/-- The signs of a text are read up to a bar or the end. -/
theorem readSequence_text {n : Nat} (items : List Item) (text : List Char) {d : Draft}
    {rest : List Sign} (hd : d.rest = text.map signOf ++ rest)
    (hrest : rest = [] ∨ rest.head? = some (.plain '|')) (hn : text.length < n) :
    readSequence n .none items d =
      .ok (ofItems ((text.map (⟨char ·, true⟩)).reverse ++ items), { d with rest := rest }) := by
  obtain ⟨n, rfl⟩ : ∃ k, n = k + 1 := ⟨n - 1, by omega⟩
  induction text generalizing n items d with
  | nil =>
    obtain ⟨_, groups, names, fence, asked⟩ := d
    obtain rfl := hd
    obtain rfl | hbar := hrest
    · rfl
    · obtain ⟨rest, rfl⟩ := List.head?_eq_some_iff.mp hbar
      rfl
  | cons c text ih =>
    obtain ⟨n, rfl⟩ : ∃ k, n = k + 1 := ⟨n - 1, by simp at hn; omega⟩
    rw [readSequence_signOf _ items c d hd, ih _ rfl n (by simpa using hn)]
    simp

/-- Texts in their own signs are read as a choice of them. -/
theorem readAlternatives_texts {n : Nat} (text : List Char) (texts : List (List Char)) {d : Draft}
    (hd : d.rest = text.map signOf ++ moreSigns texts) (hn : d.rest.length + 1 < n) :
    readAlternatives n .none d =
      .ok (anyOf (literal text) (texts.map literal), { d with rest := [] }) := by
  obtain ⟨n, rfl⟩ : ∃ k, n = k + 1 := ⟨n - 1, by omega⟩
  have hlen : text.length < n := by
    rw [hd, List.length_append, List.length_map] at hn
    omega
  have hfirst (hrest : moreSigns texts = [] ∨ (moreSigns texts).head? = some (.plain '|')) :
      readSequence n .none [] d = .ok (literal text, { d with rest := moreSigns texts }) := by
    rw [readSequence_text [] text hd hrest hlen, List.append_nil, ofItems_literal]
  induction texts generalizing n text d with
  | nil => exact bind_eq_ok.mpr ⟨_, _, hfirst (.inl rfl), rfl⟩
  | cons other texts ih =>
    have hmore : moreSigns (other :: texts) =
        .plain '|' :: (other.map signOf ++ moreSigns texts) := rfl
    have hshort : (other.map signOf ++ moreSigns texts).length + 1 < n := by
      rw [hd, hmore, List.length_append, List.length_cons] at hn
      omega
    obtain ⟨n, rfl⟩ : ∃ k, n = k + 1 := ⟨n - 1, by omega⟩
    have hlen : other.length < n := by
      rw [List.length_append, List.length_map] at hshort
      omega
    have hrest : readAlternatives (n + 1) .none
        { d with rest := other.map signOf ++ moreSigns texts } =
          .ok (anyOf (literal other) (texts.map literal), { d with rest := [] }) :=
      ih other rfl n hshort hlen fun hrest => by
        rw [readSequence_text [] other rfl hrest hlen, List.append_nil, ofItems_literal]
    exact bind_eq_ok.mpr ⟨_, _, hfirst (.inr rfl), bind_eq_ok.mpr ⟨true,
      { d with rest := other.map signOf ++ moreSigns texts }, rfl,
      bind_eq_ok.mpr ⟨_, _, hrest, rfl⟩⟩⟩

theorem head?_signs_alternatives (text : List Char) (texts : List (List Char)) :
    (signs (alternatives ((text :: texts).map escape))).head? ≠ some (.plain '(') := by
  rw [signs_alternatives]
  cases text with
  | nil =>
    cases texts with
    | nil => simp [moreSigns]
    | cons other texts => simp [moreSigns]
  | cons c text =>
    rw [List.map_cons, List.cons_append, List.head?_cons, signOf]
    split
    · simp
    · rename_i hc
      simp only [ne_eq, Option.some.injEq, Sign.plain.injEq]
      rintro rfl
      exact hc (by decide)

theorem read_escape (text : List Char) (texts : List (List Char)) :
    read .none (alternatives ((text :: texts).map escape)) =
      .ok (anyOf (literal text) (texts.map literal)) := by
  have hhead := head?_signs_alternatives text texts
  have hsigns := signs_alternatives text texts
  have hwhole : readWhole .none
      ⟨signs (alternatives ((text :: texts).map escape)), [], [], Option.none, 0⟩ =
        .ok (anyOf (literal text) (texts.map literal), ⟨[], [], [], Option.none, 0⟩) := by
    refine readWhole_eq_ok.mpr ⟨.none, _, readLeadingSwitches_other _ rfl ?_ ?_,
      readAlternatives_texts text texts hsigns (by dsimp only; omega), rfl, Nat.le_refl _⟩
    · exact fun rest hrest => absurd (congrArg List.head? hrest) hhead
    · exact fun c rest after hrest => absurd (congrArg List.head? hrest) hhead
  rw [read, hwhole]
  rfl

/-- A choice of texts is read as such from a group that has to end where the text ends. -/
theorem read_anchoredSource_escape (text : List Char) (texts : List (List Char)) :
    read .none (anchoredSource (alternatives ((text :: texts).map escape))) =
      .ok (anyOf (literal text) (texts.map literal)).anchored := by
  have hopens : ¬ OpensWithSwitches (signs (alternatives ((text :: texts).map escape))) :=
    fun h => head?_signs_alternatives text texts (head?_of_opensWithSwitches h)
  obtain ⟨q, hq, hanchored, -⟩ := read_enclosed rfl hopens (read_escape text texts)
  rw [read_escape] at hq
  cases hq
  exact hanchored

end EditorLink.Pattern
