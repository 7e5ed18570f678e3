import EditorLink.Proofs.Pattern.Parts

/-!
# Patterns within patterns

What is read as a pattern is read as the same pattern where it stands in parentheses, however much
fuel there is beyond what sufficed.
-/
namespace EditorLink.Pattern

section
variable {tail : List Sign} {same : Prop} {n m : Nat} {v w : Switches}

/-- With some fuel, patterns are read as well with more signs behind and more fuel. Where blanks
count, alternatives and sequences may run up to the end; groups always end with a parenthesis. -/
structure ReadsCarry (tail : List Sign) (same : Prop) (n : Nat) : Prop where
  alternatives {m : Nat} (hle : n ≤ m) {v w : Switches} (h : v.Akin same w) :
    Carries tail (v.isSpaced = false) (AsWide same) (readAlternatives n v) (readAlternatives m w)
  sequence {m : Nat} (hle : n ≤ m) {v w : Switches} (h : v.Akin same w) {items items' : List Item}
    (hitems : List.Forall₂ (Item.AsWide same) items items') :
    Carries tail (v.isSpaced = false) (AsWide same) (readSequence n v items)
      (readSequence m w items')
  group {m : Nat} (hle : n ≤ m) {v w : Switches} (h : v.Akin same w) :
    Carries tail True (Option.Rel (AsWide same)) (readGroup n v) (readGroup m w)
  capture {m : Nat} (hle : n ≤ m) {v w : Switches} (h : v.Akin same w)
    (name : Option (List Char)) :
    Carries tail True (Option.Rel (AsWide same)) (readCapture n v name) (readCapture m w name)
  body {m : Nat} (hle : n ≤ m) {v w : Switches} (h : v.Akin same w) :
    Carries tail True (Option.Rel (AsWide same)) (readBody n v) (readBody m w)
  behind {m : Nat} (hle : n ≤ m) {v w : Switches} (h : v.Akin same w) (negated : Bool) :
    Carries tail True (Option.Rel (AsWide same)) (readBehind n v negated) (readBehind m w negated)

theorem AsWide.alt {p q p' q' : Pattern} (h : AsWide same p q) (h' : AsWide same p' q') :
    AsWide same (p.alt p') (q.alt q') :=
  ⟨fun hs => by rw [h.1 hs, h'.1 hs], fun groups => by simp only [width, h.2, h'.2]⟩

theorem optionRel_refl (o : Option Pattern) : Option.Rel (AsWide same) o o := by
  cases o with
  | none => exact .none
  | some p => exact .some (.refl p)

theorem itemsAsWide_refl (items : List Item) : List.Forall₂ (Item.AsWide same) items items :=
  List.forall₂_same.mpr fun a _ => .refl a

theorem readAlternatives_succ (closing : Closing tail) (reads : ReadsCarry tail same n)
    (hle : n ≤ m) (h : v.Akin same w) :
    Carries tail (v.isSpaced = false) (AsWide same) (readAlternatives (n + 1) v)
      (readAlternatives (m + 1) w) := by
  unfold readAlternatives
  refine (reads.sequence hle h .nil).bind .refl fun p q hp => ?_
  refine (carries_accept closing (by decide)).andThen fun more => .ite (fun _ => ?_) fun _ => ?_
  · exact (reads.alternatives hle h).bind .refl fun _ _ hp' => carries_pure (hp.alt hp')
  · exact carries_pure hp

theorem readSequence_succ (closing : Closing tail) (reads : ReadsCarry tail same n)
    (hle : n ≤ m) (h : v.Akin same w) {items items' : List Item}
    (hitems : List.Forall₂ (Item.AsWide same) items items') :
    Carries tail (v.isSpaced = false) (AsWide same) (readSequence (n + 1) v items)
      (readSequence (m + 1) w items') := by
  have hmore {item item' : Item} (hitem : item.AsWide same item') :
      Carries tail (v.isSpaced = false) (AsWide same) (readSequence n v (item :: items))
        (readSequence m w (item' :: items')) :=
    reads.sequence hle h (.cons hitem hitems)
  unfold readSequence
  rw [← h.2]
  refine (carries_peek closing).bind (fun _ => .inl rfl) fun sign sign' hsign => ?_
  have hstop : (sign = none ∨ sign = some (.plain '|')) ∨ sign = some (.plain ')') ↔
      (sign' = none ∨ sign' = some (.plain '|')) ∨ sign' = some (.plain ')') := by
    obtain rfl | ⟨rfl, rfl⟩ := hsign <;> simp
  simp only [Bool.or_eq_true, decide_eq_true_eq, hstop]
  refine .ite (fun _ => carries_pure (ofItems_asWide hitems)) fun _ =>
    carries_next.andThen fun sign => ?_
  cases sign with
  | cut => exact carries_refuse
  | escaped c => exact (carries_readEscape closing h c).bind .refl fun _ _ => hmore
  | plain c =>
    refine .ite (fun _ => reads.sequence hle h hitems) fun _ => .ite (fun hc => ?_) fun _ =>
      .ite (fun _ => ?_) fun _ => .ite (fun _ => ?_) fun _ => ?_
    · refine (carries_skipLine.weaken ?_).andThen fun _ => reads.sequence hle h hitems
      simp_all
    · refine ((reads.group hle h).weaken fun _ => trivial).bind optionRel_refl ?_
      rintro _ _ (⟨hp⟩ | _)
      · exact hmore ⟨hp, rfl⟩
      · exact reads.sequence hle h hitems
    · exact (carries_readSet closing h).bind .refl fun _ _ hp => hmore ⟨hp, rfl⟩
    · refine (carries_readRepetition closing c).andThen fun repetition => ?_
      cases repetition with
      | none => exact hmore (readPlain_asWide h c)
      | some counts =>
        exact (carries_repeatLast closing _ _ hitems).bind itemsAsWide_refl fun _ _ hitems =>
          reads.sequence hle h hitems

/-- What stands in a group does not run on, since a closing parenthesis is left for the group. -/
theorem ReadsCarry.within (reads : ReadsCarry tail same n) (hle : n ≤ m) (h : v.Akin same w) :
    Carries tail False (AsWide same) (readAlternatives n v) (readAlternatives m w) :=
  (reads.alternatives hle h).weaken False.elim

theorem readCapture_succ (reads : ReadsCarry tail same n) (hle : n ≤ m) (h : v.Akin same w)
    (name : Option (List Char)) :
    Carries tail True (Option.Rel (AsWide same)) (readCapture (n + 1) v name)
      (readCapture (m + 1) w name) := by
  refine (carries_openGroup name).andThen fun index => ?_
  refine (reads.within hle h).before .refl (fun _ => needs_expect _ _) fun p q hp => ?_
  refine (carries_expect _).andThen fun _ => (carries_closeGroup index hp).andThen fun _ => ?_
  exact carries_pure (.some ⟨fun hs => by rw [hp.1 hs], fun groups => by simp only [width, hp.2]⟩)

theorem readBody_succ (reads : ReadsCarry tail same n) (hle : n ≤ m) (h : v.Akin same w) :
    Carries tail True (Option.Rel (AsWide same)) (readBody (n + 1) v) (readBody (m + 1) w) :=
  (reads.within hle h).before .refl (fun _ => needs_expect _ _) fun _ _ hp =>
    (carries_expect _).andThen fun _ => carries_pure (.some hp)

theorem readBehind_succ (reads : ReadsCarry tail same n) (hle : n ≤ m) (h : v.Akin same w)
    (negated : Bool) :
    Carries tail True (Option.Rel (AsWide same)) (readBehind (n + 1) v negated)
      (readBehind (m + 1) w negated) := by
  refine carries_get fun d => (carries_groupCount.andThen fun count => ?_) d
  have hfence (fence : Option Nat) : Carries tail True Eq
      (modify fun d => { d with fence := fence }) (modify fun d => { d with fence := fence }) :=
    carries_modify (fun _ => rfl) fun _ => rfl
  refine (hfence _).andThen fun _ => ?_
  refine (reads.within hle h).before .refl (fun _ => ?_) fun p q hp => ?_
  · exact (hfence _).needs fun _ => needs_expect _ _
  refine (hfence _).andThen fun _ => (carries_expect _).andThen fun _ =>
    (carries_widthOf hp).andThen fun width => (carries_demand _).andThen fun fixed => ?_
  exact carries_pure (.some ⟨fun hs => by rw [hp.1 hs], fun _ => rfl⟩)

theorem readGroup_succ (closing : Closing tail) (reads : ReadsCarry tail same n)
    (hle : n ≤ m) (h : v.Akin same w) :
    Carries tail True (Option.Rel (AsWide same)) (readGroup (n + 1) v) (readGroup (m + 1) w) := by
  have hmap (f : Pattern → Pattern) (hf : ∀ p q, AsWide same p q → AsWide same (f p) (f q)) :
      Carries tail True (Option.Rel (AsWide same)) (do return (← readBody n v).map f)
        (do return (← readBody m w).map f) := by
    refine (reads.body hle h).bind optionRel_refl ?_
    rintro _ _ (⟨hp⟩ | _)
    · exact carries_pure (.some (hf _ _ hp))
    · exact carries_pure .none
  unfold readGroup
  refine (carries_accept closing (by decide)).andThen fun special => .ite
    (fun _ => reads.capture hle h none) fun _ => carries_next.andThen fun sign => ?_
  split
  · -- named groups
    refine (carries_accept closing (by decide)).andThen fun opened => .ite (fun _ => ?_) fun _ => ?_
    · exact (carries_readName _).andThen fun name => reads.capture hle h (some name)
    · refine (carries_expect _).andThen fun _ => carries_get fun d => ?_
      refine ((carries_readName _).andThen fun name => (carries_demand _).andThen fun index => ?_) d
      exact (carries_readAgain h index).bind .refl fun _ _ hp => carries_pure (.some hp)
  · exact (carries_takeUntil _).andThen fun _ => carries_pure .none
  · exact reads.body hle h
  · exact hmap settled fun p q hp => ⟨fun hs => by rw [hp.1 hs], hp.2⟩
  · exact hmap (ahead · false) fun p q hp => ⟨fun hs => by rw [hp.1 hs], fun _ => rfl⟩
  · exact hmap (ahead · true) fun p q hp => ⟨fun hs => by rw [hp.1 hs], fun _ => rfl⟩
  · refine (carries_accept closing (by decide)).andThen fun equal => .ite (fun _ => ?_) fun _ => ?_
    · exact reads.behind hle h false
    · exact (carries_expect _).andThen fun _ => reads.behind hle h true
  · -- alternatives by whether a group has taken a piece
    refine carries_readCondition.andThen fun index => ?_
    have hsequence : Carries tail False (AsWide same) (readSequence n v []) (readSequence m w []) :=
      (reads.sequence hle h .nil).weaken False.elim
    have hempty : Carries tail True (AsWide same) (pure empty) (pure empty) :=
      carries_pure (.refl empty)
    have hbar : Carries tail True Eq (accept '|') (accept '|') := carries_accept closing (by decide)
    refine hsequence.before .refl (fun yes => hbar.needs fun two => ?_) fun yes yes' hyes => ?_
    · split
      · exact hsequence.needs fun _ => needs_expect _ _
      · exact hempty.needs fun _ => needs_expect _ _
    have hgiven (no no' : Pattern) (hno : AsWide same no no') :
        Carries tail True (Option.Rel (AsWide same))
          (do expect ')'; return some (given index yes no))
          (do expect ')'; return some (given index yes' no')) :=
      (carries_expect _).andThen fun _ => carries_pure (.some
        ⟨fun hs => by rw [hyes.1 hs, hno.1 hs], fun groups => by simp only [width, hyes.2, hno.2]⟩)
    refine hbar.andThen fun two => .ite (fun _ => ?_) fun _ => ?_
    · exact hsequence.before .refl (fun _ => needs_expect _ _) hgiven
    · exact hempty.bind .refl hgiven
  · refine .ite (fun _ => ?_) fun _ => carries_refuse
    exact (carries_readSwitches closing h _).bind .refl fun _ _ h' => reads.body hle h'
  · exact carries_refuse

/-- With any fuel, patterns are read as well with more signs behind and more fuel. -/
theorem readsCarry (closing : Closing tail) (same : Prop) (n : Nat) :
    ReadsCarry tail same n := by
  induction n with
  | zero => exact ⟨fun _ _ _ _ => carries_refuse, fun _ _ _ _ _ _ _ => carries_refuse,
      fun _ _ _ _ => carries_refuse, fun _ _ _ _ _ => carries_refuse,
      fun _ _ _ _ => carries_refuse, fun _ _ _ _ _ => carries_refuse⟩
  | succ n ih =>
    have hpred {m : Nat} (hle : n + 1 ≤ m) : ∃ k, m = k + 1 ∧ n ≤ k := ⟨m - 1, by omega, by omega⟩
    constructor
    · intro m hle v w h
      obtain ⟨m, rfl, hle'⟩ := hpred hle
      exact readAlternatives_succ closing ih hle' h
    · intro m hle v w h items items' hitems
      obtain ⟨m, rfl, hle'⟩ := hpred hle
      exact readSequence_succ closing ih hle' h hitems
    · intro m hle v w h
      obtain ⟨m, rfl, hle'⟩ := hpred hle
      exact readGroup_succ closing ih hle' h
    · intro m hle v w h name
      obtain ⟨m, rfl, hle'⟩ := hpred hle
      exact readCapture_succ ih hle' h name
    · intro m hle v w h
      obtain ⟨m, rfl, hle'⟩ := hpred hle
      exact readBody_succ ih hle' h
    · intro m hle v w h negated
      obtain ⟨m, rfl, hle'⟩ := hpred hle
      exact readBehind_succ ih hle' h negated

end
end EditorLink.Pattern
