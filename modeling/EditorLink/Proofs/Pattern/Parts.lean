import EditorLink.Proofs.Pattern.Carrying

/-!
# Parts of patterns with more signs behind

Escapes, sets, repetitions, and what opens a group are read in the same way where a closing
parenthesis and more come behind. Nor does it matter for what is read which switches hold, as long
as blanks count as before: the pieces of the pattern are as wide.
-/
namespace EditorLink.Pattern
open Number

section
variable {tail : List Sign} {free : Prop}

/-! ## Escapes -/

theorem carries_octalCode (digits : List Char) :
    Carries tail free Eq (octalCode digits) (octalCode digits) := by
  unfold octalCode
  refine .unless fun _ => ?_
  exact carries_pure rfl

theorem carries_readCode (closing : Closing tail) (width : Nat) :
    Carries tail free Eq (readCode width) (readCode width) := by
  refine .andThen (carries_takeWhile closing (by decide) width) fun _ => ?_
  refine .unless fun _ => ?_
  exact carries_pure rfl

theorem carries_readEscaped (closing : Closing tail) (c : Char) :
    Carries tail free Eq (readEscaped c) (readEscaped c) := by
  unfold readEscaped
  split
  · exact carries_pure rfl
  · split
    · exact carries_readCode closing 2
    · exact carries_readCode closing 4
    · exact carries_readCode closing 8
    · exact .ite (fun _ => carries_refuse) fun _ => carries_pure rfl

/-! ## Pieces that are as wide -/

variable {same : Prop}

/-- Switches with which blanks count alike; the same ones, if they are to be. -/
def Switches.Akin (same : Prop) (v w : Switches) : Prop :=
  (same → v = w) ∧ v.isSpaced = w.isSpaced

theorem Switches.Akin.refl (w : Switches) : w.Akin same w := ⟨fun _ => rfl, rfl⟩

/-- A part of a character set for another one: a range is the same. -/
def AkinPart (same : Prop) (a b : CharPart) : Prop :=
  (same → a = b) ∧ ∀ first last, a = .range first last → b = .range first last

/-- Patterns with pieces that are as wide; the same ones, if they are to be. -/
def AsWide (same : Prop) (p q : Pattern) : Prop :=
  (same → p = q) ∧ ∀ groups, p.width groups = q.width groups

theorem carries_readMember (closing : Closing tail) {v w : Switches} (h : v.Akin same w)
    (sign : Sign) :
    Carries tail free (AkinPart same) (readMember v sign) (readMember w sign) := by
  unfold readMember
  split
  · exact carries_pure ⟨fun _ => rfl, fun _ _ => id⟩
  · exact carries_refuse
  · rename_i c
    have hkind : (kindOf? v.isPlain c = none ∧ kindOf? w.isPlain c = none) ∨
        ∃ k n, kindOf? v.isPlain c = some (.kind k v.isPlain n) ∧
          kindOf? w.isPlain c = some (.kind k w.isPlain n) := by
      unfold kindOf?
      split <;> simp
    obtain ⟨hv, hw⟩ | ⟨k, n, hv, hw⟩ := hkind
    · simp only [hv, hw]
      have hcode (code : Nat) : Carries tail free (AkinPart same)
          (pure (.range code code)) (pure (.range code code)) :=
        carries_pure ⟨fun _ => rfl, fun _ _ => id⟩
      refine .ite (fun _ => hcode 8) fun _ => .ite (fun _ => ?_) fun _ => ?_
      · exact (carries_takeWhile closing (by decide) 2).andThen fun digits =>
          (carries_octalCode _).andThen hcode
      · exact (carries_readEscaped closing c).andThen hcode
    · simp only [hv, hw]
      exact carries_pure ⟨fun hs => by rw [h.1 hs], by simp⟩

/-- The members of a set may be read with more fuel. -/
theorem carries_readMembers (closing : Closing tail) {v w : Switches} (h : v.Akin same w)
    {n m : Nat} (hle : n ≤ m) {parts parts' : List CharPart} (hparts : same → parts = parts')
    (hnil : parts = [] ↔ parts' = []) :
    Carries tail free (fun a b => same → a = b) (readMembers v n parts)
      (readMembers w m parts') := by
  induction n generalizing m parts parts' with
  | zero => exact carries_refuse
  | succ n ih =>
    obtain ⟨m, rfl⟩ : ∃ k, m = k + 1 := ⟨m - 1, by omega⟩
    unfold readMembers
    simp only [hnil, ne_eq]
    refine carries_next.andThen fun sign => .ite (fun _ => ?_) fun _ => ?_
    · exact carries_pure fun hs => by rw [hparts hs]
    refine (carries_readMember closing h sign).bind (fun _ => ⟨fun _ => rfl, fun _ _ => id⟩)
      fun a b hab => (carries_accept closing (by decide)).andThen fun dashed =>
        .ite (fun _ => ?_) fun _ => ?_
    · exact ih (by omega) (fun hs => by rw [hab.1 hs, hparts hs]) (by simp)
    refine carries_next.andThen fun sign => .ite (fun _ => ?_) fun _ => ?_
    · exact carries_pure fun hs => by rw [hab.1 hs, hparts hs]
    refine (carries_readMember closing h sign).bind (fun _ => ⟨fun _ => rfl, fun _ _ => id⟩)
      fun a' b' hab' => ?_
    cases a with
    | kind => exact carries_refuse
    | range first =>
      cases a' with
      | kind => exact carries_refuse
      | range _ last =>
        rw [hab.2 _ _ rfl, hab'.2 _ _ rfl]
        refine .unless fun _ => ?_
        exact ih (by omega) (fun hs => by rw [hparts hs]) (by simp)

theorem AsWide.refl (p : Pattern) : AsWide same p p := ⟨fun _ => rfl, fun _ => rfl⟩

theorem carries_readSet (closing : Closing tail) {v w : Switches} (h : v.Akin same w) :
    Carries tail free (AsWide same) (readSet v) (readSet w) := by
  unfold readSet
  refine (carries_accept closing (by decide)).andThen fun negated => carries_get fun d => ?_
  have hle : d.rest.length ≤ (d.append tail).rest.length := by simp
  refine CarriesFrom.bind (fun _ _ => rfl)
    (carries_readMembers closing h hle (fun _ => rfl) Iff.rfl d) fun parts parts' hparts => ?_
  exact carries_pure ⟨fun hs => by rw [hparts hs, h.1 hs], fun _ => rfl⟩

theorem carries_groupCount : Carries tail free Eq groupCount groupCount :=
  carries_get fun _ => carriesFrom_pure rfl

theorem carries_isClosed (index : Nat) :
    Carries tail free Eq (isClosed index) (isClosed index) :=
  carries_get fun _ => carriesFrom_pure rfl

theorem carries_checkFence (index : Nat) :
    Carries tail free Eq (checkFence index) (checkFence index) := by
  refine carries_get fun d => ?_
  rw [show (d.append tail).fence = d.fence from rfl]
  cases d.fence with
  | none => exact carriesFrom_pure rfl
  | some count =>
    exact ((carries_isClosed index).andThen fun _ =>
      .ite (fun _ => carries_refuse) fun _ => carries_pure rfl) d

theorem carries_readAgain {v w : Switches} (h : v.Akin same w) (index : Nat) :
    Carries tail free (AsWide same) (readAgain v index) (readAgain w index) := by
  refine (carries_isClosed index).andThen fun closed => .unless fun _ =>
    (carries_checkFence index).andThen fun _ => ?_
  exact carries_pure ⟨fun hs => by rw [h.1 hs], fun _ => rfl⟩

theorem ofCode_asWide {v w : Switches} (h : v.Akin same w) (code : Nat) :
    AsWide same (ofCode v code) (ofCode w code) :=
  ⟨fun hs => by rw [h.1 hs], fun _ => rfl⟩

theorem carries_readDigits (closing : Closing tail) {v w : Switches} (h : v.Akin same w)
    (c : Char) : Carries tail free (AsWide same) (readDigits v c) (readDigits w c) := by
  have htake (p : Char → Bool) (hp : p ')' = false) (most : Nat) :
      Carries tail free Eq (takeWhile p most) (takeWhile p most) :=
    carries_takeWhile closing hp most
  unfold readDigits
  refine .ite (fun _ => ?_) fun _ => ?_
  · exact (htake isOctal (by decide) 2).andThen fun _ => carries_pure (ofCode_asWide h _)
  refine (htake Char.isDigit (by decide) 1).andThen fun second => ?_
  have hthird (third : List Char) : Carries tail free (AsWide same)
      (if third ≠ [] then do return ofCode v (← octalCode (c :: second ++ third))
        else readAgain v (numberIn 10 (c :: second)))
      (if third ≠ [] then do return ofCode w (← octalCode (c :: second ++ third))
        else readAgain w (numberIn 10 (c :: second))) :=
    .ite (fun _ => (carries_octalCode _).andThen fun _ => carries_pure (ofCode_asWide h _))
      fun _ => carries_readAgain h _
  exact .ite (fun _ => (htake isOctal (by decide) 1).andThen hthird) fun _ =>
    (carries_pure rfl).andThen hthird

/-! ## Items -/

/-- Items with pieces that are as wide. -/
def Item.AsWide (same : Prop) (a b : Item) : Prop :=
  Pattern.AsWide same a.pattern b.pattern ∧ a.repeatable = b.repeatable

theorem Item.AsWide.refl (a : Item) : a.AsWide same a := ⟨.refl _, rfl⟩

theorem asWide_one (c d : CharSet) (h : same → c = d) : AsWide same (one c) (one d) :=
  ⟨fun hs => congrArg one (h hs), fun _ => rfl⟩

theorem carries_readEscape (closing : Closing tail) {v w : Switches} (h : v.Akin same w)
    (c : Char) : Carries tail free (Item.AsWide same) (readEscape v c) (readEscape w c) := by
  have hanchor : (anchorOf? v.isPlain c = none ∧ anchorOf? w.isPlain c = none) ∨
      ∃ a b, anchorOf? v.isPlain c = some a ∧ anchorOf? w.isPlain c = some b ∧
        (v.isPlain = w.isPlain → a = b) := by
    unfold anchorOf?
    split <;> simp +contextual
  have hkind : (kindOf? v.isPlain c = none ∧ kindOf? w.isPlain c = none) ∨
      ∃ a b, kindOf? v.isPlain c = some a ∧ kindOf? w.isPlain c = some b ∧
        (v.isPlain = w.isPlain → a = b) := by
    unfold kindOf?
    split <;> simp +contextual
  unfold readEscape
  obtain ⟨hv, hw⟩ | ⟨a, b, hv, hw, hab⟩ := hanchor
  · obtain ⟨hv', hw'⟩ | ⟨a, b, hv', hw', hab⟩ := hkind
    · simp only [hv, hw, hv', hw']
      refine .ite (fun _ => ?_) fun _ => ?_
      · exact (carries_readDigits closing h c).bind .refl fun _ _ hp => carries_pure ⟨hp, rfl⟩
      · exact (carries_readEscaped closing c).andThen fun _ => carries_pure ⟨ofCode_asWide h _, rfl⟩
    · simp only [hv, hw, hv', hw']
      exact carries_pure ⟨asWide_one _ _ fun hs => by rw [hab (by rw [h.1 hs]), h.1 hs], rfl⟩
  · simp only [hv, hw]
    exact carries_pure ⟨⟨fun hs => by rw [hab (by rw [h.1 hs])], fun _ => rfl⟩, rfl⟩

/-- What a count is, by the signs behind its first digits. -/
theorem countOf?_eq (l : List Sign) : countOf? l =
    match l.drop (leading Char.isDigit l).length with
    | .plain c :: rest =>
      if c = ',' then
        match rest.drop (leading Char.isDigit rest).length with
        | .plain e :: after =>
          if e = '\x7d' then some (leading Char.isDigit l, leading Char.isDigit rest, after)
          else none
        | _ => none
      else if c = '\x7d' ∧ leading Char.isDigit l ≠ [] then
        some (leading Char.isDigit l, leading Char.isDigit l, rest)
      else none
    | _ => none := by
  unfold countOf?
  dsimp only
  split
  · rename_i rest hdrop
    rw [hdrop]
    simp only [if_true]
    split
    · rename_i after hdrop'
      simp [hdrop']
    · rename_i hother
      split
      · rename_i e after hdrop'
        rw [if_neg fun he => hother after (by rw [hdrop', he])]
      · rfl
  · rename_i after hdrop
    rw [hdrop]
    by_cases hl : leading Char.isDigit l = [] <;> simp [hl]
  · rename_i hcomma hbrace
    split
    · rename_i c rest hdrop
      rw [if_neg fun hc => hcomma rest (by rw [hdrop, hc]),
        if_neg fun hc => hbrace rest (by rw [hdrop, hc.1])]
    · rfl

/-- A closing parenthesis behind a count, or behind what is none, changes nothing. -/
theorem countOf?_append (closing : Closing tail) (l : List Sign) :
    countOf? (l ++ tail) =
      (countOf? l).map fun (low, high, after) => (low, high, after ++ tail) := by
  have hdrop (l : List Sign) : (l ++ tail).drop (leading Char.isDigit l).length =
      l.drop (leading Char.isDigit l).length ++ tail :=
    List.drop_append_of_le_length (length_leading_le _ _)
  rw [countOf?_eq, countOf?_eq, leading_append closing (by decide), hdrop]
  cases l.drop (leading Char.isDigit l).length with
  | nil =>
    cases tail with
    | nil => rfl
    | cons sign rest =>
      obtain rfl := closing sign rfl
      rfl
  | cons sign rest =>
    cases sign with
    | escaped c | cut => rfl
    | plain c =>
      simp only [List.cons_append]
      split
      · rw [leading_append closing (by decide), hdrop]
        cases rest.drop (leading Char.isDigit rest).length with
        | nil =>
          cases tail with
          | nil => rfl
          | cons sign rest =>
            obtain rfl := closing sign rfl
            rfl
        | cons sign rest =>
          cases sign with
          | escaped c | cut => rfl
          | plain c =>
            simp only [List.cons_append]
            split <;> rfl
      · split <;> rfl

theorem eq_append_of_countOf? {l after : List Sign} {low high : List Char}
    (h : countOf? l = some (low, high, after)) :
    ∃ taken, l = taken ++ .plain '\x7d' :: after := by
  have hrest (l rest : List Sign) (c : Char)
      (hdrop : l.drop (leading Char.isDigit l).length = .plain c :: rest) :
      l = (leading Char.isDigit l).map .plain ++ .plain c :: rest := by
    rw [← hdrop, map_plain_leading]
  rw [countOf?_eq] at h
  split at h
  · rename_i c rest hdrop
    have hl := hrest l rest c hdrop
    split at h
    · split at h
      · rename_i e behind hdrop'
        split at h
        · rename_i hc he
          simp only [Option.some.injEq, Prod.mk.injEq] at h
          obtain ⟨-, -, rfl⟩ := h
          rw [hrest rest behind e hdrop', he] at hl
          exact ⟨_, hl.trans (by rw [← List.cons_append, ← List.append_assoc])⟩
        · cases h
      · cases h
    · split at h
      · rename_i hc
        simp only [Option.some.injEq, Prod.mk.injEq] at h
        obtain ⟨-, -, rfl⟩ := h
        exact ⟨_, hc.1 ▸ hl⟩
      · cases h
  · cases h

theorem carries_readRepetition (closing : Closing tail) (c : Char) :
    Carries tail free Eq (readRepetition c) (readRepetition c) := by
  unfold readRepetition
  split
  · exact carries_pure rfl
  · exact carries_pure rfl
  · exact carries_pure rfl
  · refine carries_get fun d => ?_
    rw [Draft.rest_append, countOf?_append closing]
    cases hcount : countOf? d.rest with
    | none => exact carriesFrom_pure rfl
    | some found =>
      obtain ⟨low, high, after⟩ := found
      obtain ⟨taken, htaken⟩ := eq_append_of_countOf? hcount
      refine CarriesFrom.bind (fun _ => rfl)
        (carriesFrom_modify (taken ++ [.plain '\x7d']) (by simpa using htaken) (by simp) rfl)
        fun _ _ _ => ?_
      refine .unless fun _ => .unless fun _ => ?_
      exact carries_pure rfl
  · exact carries_pure rfl

theorem carries_readAppetite (closing : Closing tail) :
    Carries tail free Eq readAppetite readAppetite := by
  refine (carries_accept closing (by decide)).andThen fun _ => .ite (fun _ => carries_pure rfl)
    fun _ => (carries_accept closing (by decide)).andThen fun _ =>
      .ite (fun _ => carries_pure rfl) fun _ => carries_pure rfl

theorem AsWide.times {p q : Pattern} (h : AsWide same p q) (least : Nat) (most : Option Nat)
    (appetite : Appetite) :
    AsWide same (p.times least most appetite) (q.times least most appetite) :=
  ⟨fun hs => by rw [h.1 hs], fun groups => by simp only [width, h.2]⟩

theorem carries_repeatLast (closing : Closing tail) (least : Nat) (most : Option Nat)
    {items items' : List Item} (h : List.Forall₂ (Item.AsWide same) items items') :
    Carries tail free (List.Forall₂ (Item.AsWide same)) (repeatLast least most items)
      (repeatLast least most items') := by
  cases h with
  | nil => exact carries_refuse
  | cons hlast hbefore =>
    simp only [repeatLast, hlast.2]
    refine .unless fun _ => ?_
    exact (carries_readAppetite closing).andThen fun _ =>
      carries_pure (.cons ⟨hlast.1.times _ _ _, rfl⟩ hbefore)

theorem readPlain_asWide {v w : Switches} (h : v.Akin same w) (c : Char) :
    (readPlain v c).AsWide same (readPlain w c) := by
  refine ⟨⟨fun hs => by rw [h.1 hs], fun groups => ?_⟩, ?_⟩
  · unfold readPlain
    split <;> rfl
  · unfold readPlain
    split <;> rfl

theorem AsWide.seq {p q p' q' : Pattern} (h : AsWide same p q) (h' : AsWide same p' q') :
    AsWide same (p.seq p') (q.seq q') :=
  ⟨fun hs => by rw [h.1 hs, h'.1 hs], fun groups => by simp only [width, h.2, h'.2]⟩

theorem ofItems_asWide {items items' : List Item}
    (h : List.Forall₂ (Item.AsWide same) items items') :
    AsWide same (ofItems items) (ofItems items') := by
  have hfold (rest rest' : List Item) (hrest : List.Forall₂ (Item.AsWide same) rest rest')
      (p q : Pattern) (hpq : AsWide same p q) :
      AsWide same (rest.foldl (fun p item => seq p item.pattern) p)
        (rest'.foldl (fun p item => seq p item.pattern) q) := by
    induction hrest generalizing p q with
    | nil => exact hpq
    | cons hitem hrest ih =>
      exact ih _ _ (hpq.seq hitem.1)
  unfold ofItems
  generalize hitems : items.reverse = row, hitems' : items'.reverse = row'
  have hrow : List.Forall₂ (Item.AsWide same) row row' :=
    hitems ▸ hitems' ▸ List.rel_reverse h
  cases hrow with
  | nil => exact .refl _
  | cons hfirst hrest => exact hfold _ _ hrest _ _ hfirst.1

/-! ## Groups -/

theorem carries_readName (stop : Char) :
    Carries tail free Eq (readName stop) (readName stop) := by
  refine (carries_takeUntil stop).andThen fun name => .unless fun _ => ?_
  exact carries_pure rfl

theorem carries_openGroup (name : Option (List Char)) :
    Carries tail free Eq (openGroup name) (openGroup name) := by
  have hset (d : Draft) (named : List (List Char × Nat)) : CarriesFrom d tail free Eq
      (do set { d with groups := d.groups ++ [Option.none], names := named }
          return d.groups.length + 1)
      (do set { d.append tail with groups := d.groups ++ [Option.none], names := named }
          return d.groups.length + 1) := by
    rintro _ _ ⟨⟩
    exact ⟨⟨[], rfl, by simp⟩, fun _ => ⟨_, rfl, rfl⟩⟩
  refine carries_get fun d => ?_
  cases name with
  | none => exact hset d d.names
  | some n =>
    have hnames : (d.append tail).names = d.names := rfl
    by_cases hn : (d.names.lookup n).isSome = true
    · simp only [hnames, hn, if_true]
      rintro _ _ ⟨⟩
    · simp only [hnames, hn]
      exact hset d _

theorem carries_widthOf {p q : Pattern} (h : AsWide same p q) :
    Carries tail free Eq (widthOf p) (widthOf q) := by
  refine carries_get fun d => carriesFrom_pure ?_
  exact h.2 _

theorem carries_closeGroup (index : Nat) {p q : Pattern} (h : AsWide same p q) :
    Carries tail free Eq (closeGroup index p) (closeGroup index q) :=
  (carries_widthOf h).andThen fun _ => carries_modify (fun _ => rfl) fun _ => rfl

theorem carries_readCondition : Carries tail free Eq readCondition readCondition := by
  refine (carries_takeUntil ')').andThen fun name => ?_
  have hindex (index : Nat) : Carries tail free Eq
      (do checkFence index; modify fun d => { d with asked := max d.asked index }; return index)
      (do checkFence index; modify fun d => { d with asked := max d.asked index }
          return index) := by
    refine (carries_checkFence index).andThen fun _ =>
      .andThen (carries_modify (fun _ => ?_) fun _ => ?_) fun _ => carries_pure rfl
    · rfl
    · rfl
  refine .ite (fun _ => carries_get fun d => ?_) fun _ => ?_
  · exact ((carries_demand _).andThen hindex) d
  · refine (carries_demand _).andThen fun n => .unless fun _ => ?_
    exact (carries_pure rfl).andThen hindex

theorem carries_readLetters (closing : Closing tail) (first : Char) :
    Carries tail free Eq (readLetters first) (readLetters first) := by
  refine carries_get fun d => ?_
  refine CarriesFrom.bind (fun _ => rfl)
    (carriesFrom_takeWhile closing (by decide) (.inr ⟨Nat.le_refl _, by simp⟩)) ?_
  rintro more _ rfl
  refine carries_next.andThen fun sign => ?_
  cases sign with
  | plain c => exact carries_pure rfl
  | escaped c | cut => exact carries_refuse

theorem Switches.Akin.set {v w : Switches} (h : v.Akin same w) (isOn : Bool) (c : Char) :
    (v.set isOn c).Akin same (w.set isOn c) := by
  refine ⟨fun hs => by rw [h.1 hs], ?_⟩
  unfold Switches.set
  split <;> first | exact h.2 | rfl

theorem Switches.Akin.foldl_set {v w : Switches} (h : v.Akin same w) (isOn : Bool)
    (letters : List Char) :
    (letters.foldl (·.set isOn ·) v).Akin same (letters.foldl (·.set isOn ·) w) := by
  induction letters generalizing v w with
  | nil => exact h
  | cons c rest ih => exact ih (h.set isOn c)

theorem carries_readSwitches (closing : Closing tail) {v w : Switches} (h : v.Akin same w)
    (first : Char) :
    Carries tail free (Switches.Akin same) (readSwitches v first) (readSwitches w first) := by
  unfold readSwitches
  refine .either (fun _ => carries_pure rfl) (fun _ => carries_readLetters closing first) ?_
  rintro ⟨on, stop⟩
  refine .unless fun _ => ?_
  have hset (off : List Char) : Carries tail free (Switches.Akin same)
      (do if on.any off.contains then refuse
          return off.foldl (·.set false ·) (on.foldl (·.set true ·) v))
      (do if on.any off.contains then refuse
          return off.foldl (·.set false ·) (on.foldl (·.set true ·) w)) := by
    refine .unless fun _ => ?_
    exact carries_pure ((h.foldl_set true on).foldl_set false off)
  refine .ite (fun _ => (carries_pure rfl).andThen hset) fun _ => .ite (fun _ => ?_) fun _ => ?_
  · refine carries_next.andThen fun sign => ?_
    cases sign with
    | plain c =>
      refine .unless fun _ => (carries_readLetters closing c).andThen ?_
      rintro ⟨off, stop⟩
      refine .unless fun _ => ?_
      exact (carries_pure rfl).andThen hset
    | escaped c | cut => exact carries_refuse.andThen hset
  · exact carries_refuse.andThen hset

end
end EditorLink.Pattern
