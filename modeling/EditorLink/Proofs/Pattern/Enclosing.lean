import EditorLink.Pattern.Writing
import EditorLink.Proofs.Pattern.Nesting

/-!
# Whole patterns as groups

A text that is a pattern stays one where it is put into a group, and the group is the same pattern
as the text, unless the text begins with switches for the whole pattern: these have no place in a
group.
-/
namespace EditorLink.Pattern

/-! ## Signs of texts in a row -/

/-- More text changes no sign but a backslash at the end. -/
theorem signs_append {s : List Char} (t : List Char) {front behind : List Sign}
    (h : signs s = front ++ behind) (hcut : front.getLast? ≠ some .cut) :
    ∃ more, signs (s ++ t) = front ++ more ∧ (behind = [] → more = signs t) := by
  have hlast {sign : Sign} {l : List Sign} (h : (sign :: l).getLast? ≠ some .cut) :
      l.getLast? ≠ some .cut := by
    cases l with
    | nil => simp
    | cons other l => rwa [List.getLast?_cons_cons] at h
  fun_induction signs s generalizing front with
  | case1 =>
    obtain ⟨rfl, rfl⟩ := List.append_eq_nil_iff.mp h.symm
    exact ⟨_, rfl, fun _ => rfl⟩
  | case2 =>
    cases front with
    | nil => exact ⟨_, rfl, fun hb => by simp [hb] at h⟩
    | cons sign front =>
      obtain ⟨rfl, hnil⟩ := List.cons.inj h
      simp [(List.append_eq_nil_iff.mp hnil.symm).1] at hcut
  | case3 c rest ih =>
    cases front with
    | nil => exact ⟨_, rfl, fun hb => by simp [hb] at h⟩
    | cons sign front =>
      obtain ⟨rfl, hrest⟩ := List.cons.inj h
      obtain ⟨more, hmore, hall⟩ := ih hrest (hlast hcut)
      exact ⟨more, by rw [List.cons_append, List.cons_append, signs, hmore, List.cons_append], hall⟩
  | case4 c rest hnil hcons ih =>
    cases front with
    | nil => exact ⟨_, rfl, fun hb => by simp [hb] at h⟩
    | cons sign front =>
      obtain ⟨rfl, hrest⟩ := List.cons.inj h
      obtain ⟨more, hmore, hall⟩ := ih hrest (hlast hcut)
      refine ⟨more, ?_, hall⟩
      rw [List.cons_append, List.cons_append, ← hmore]
      by_cases hc : c = '\\'
      · cases rest with
        | nil => exact (hnil hc rfl).elim
        | cons e rest => exact (hcons e rest hc rfl).elim
      · simp [signs, hc]

/-- The signs behind some comments. -/
inductive AfterComments : List Sign → List Sign → Prop
  | none (l : List Sign) : AfterComments l l
  | comment {taken rest after : List Sign} : (∀ sign ∈ taken, sign ≠ .plain ')') →
    AfterComments rest after →
    AfterComments (.plain '(' :: .plain '?' :: .plain '#' :: taken ++ .plain ')' :: rest) after

/-- Whether a pattern begins with switches for all of it, comments apart. -/
def OpensWithSwitches (l : List Sign) : Prop :=
  ∃ letters after, AfterComments l
    (.plain '(' :: .plain '?' :: letters.map .plain ++ .plain ')' :: after) ∧
      letters ≠ [] ∧ ∀ c ∈ letters, c ∈ Switches.letters

theorem head?_of_opensWithSwitches {l : List Sign} (h : OpensWithSwitches l) :
    l.head? = some (.plain '(') := by
  obtain ⟨letters, after, hafter, -⟩ := h
  generalize hs : Sign.plain '(' :: .plain '?' :: letters.map .plain ++ .plain ')' :: after = l'
    at hafter
  cases hafter with
  | none => rw [← hs]; rfl
  | comment => rfl

theorem readLeadingSwitches_comment (n : Nat) (w : Switches) {d : Draft} {rest : List Sign}
    (h : d.rest = .plain '(' :: .plain '?' :: .plain '#' :: rest) :
    readLeadingSwitches (n + 1) w d = (takeUntil ')' >>= fun _ => readLeadingSwitches n w) d := by
  rw [readLeadingSwitches, get_bind, h]
  rfl

theorem readLeadingSwitches_other (n : Nat) {w : Switches} (hw : w.isSpaced = false) {d : Draft}
    (hcomment : ∀ rest, d.rest ≠ .plain '(' :: .plain '?' :: .plain '#' :: rest)
    (hswitches : ∀ c rest after, d.rest = .plain '(' :: .plain '?' :: .plain c :: rest →
      c ∈ Switches.letters →
        rest.drop (leading Switches.letters.contains rest).length ≠ .plain ')' :: after) :
    readLeadingSwitches n w d = .ok (w, d) := by
  cases n with
  | zero => rfl
  | succ n =>
    rw [readLeadingSwitches, get_bind]
    refine (congrFun (?_ : _ = (pure w : Reading Switches)) d).trans rfl
    split
    · rename_i rest hrest
      exact absurd hrest (hcomment rest)
    · rename_i c rest _ hrest
      split
      · rfl
      · rename_i hc
        rw [hrest]
        dsimp only
        split
        · rename_i after hafter
          refine absurd hafter (hswitches c rest after hrest (by simpa using hc))
        · rfl
    · rw [hw]
      rfl
    · rfl

theorem comment_split {taken behind rest : List Sign}
    (h : taken ++ .plain ')' :: behind = .plain '(' :: .plain '?' :: .plain '#' :: rest) :
    ∃ body, rest = body ++ .plain ')' :: behind ∧
      taken = .plain '(' :: .plain '?' :: .plain '#' :: body := by
  obtain _ | ⟨a, _ | ⟨b, _ | ⟨c, body⟩⟩⟩ := taken
  · simp at h
  · simp at h
  · simp at h
  · simp only [List.cons_append, List.cons.injEq] at h
    obtain ⟨rfl, rfl, rfl, rfl⟩ := h
    exact ⟨body, rfl, rfl⟩

theorem leadingSwitches_eq_ok {n : Nat} {v w : Switches} (hw : w.isSpaced = false) {d d' : Draft}
    (hopens : ¬ OpensWithSwitches d.rest) (h : readLeadingSwitches n w d = .ok (v, d')) :
    v = w ∧ (∃ rest, AfterComments d.rest rest ∧ d' = { d with rest := rest }) ∧
      ∀ u : Switches, u.isSpaced = false → readLeadingSwitches n u d = .ok (u, d') := by
  induction n generalizing d with
  | zero =>
    cases h
    exact ⟨rfl, ⟨_, .none _, rfl⟩, fun u _ => rfl⟩
  | succ n ih =>
    by_cases hcomment : ∃ rest, d.rest = .plain '(' :: .plain '?' :: .plain '#' :: rest
    · obtain ⟨rest, hrest⟩ := hcomment
      rw [readLeadingSwitches_comment n w hrest] at h
      obtain ⟨name, d₁, htake, h⟩ := bind_eq_ok.mp h
      obtain ⟨taken, behind, hsplit, htaken, -, rfl⟩ := takeUntil_eq_ok.mp htake
      obtain ⟨body, rfl, rfl⟩ := comment_split (hsplit.symm.trans hrest)
      have hbody (sign : Sign) (hs : sign ∈ body) : sign ≠ .plain ')' := htaken sign (by simp [hs])
      have hafter {after : List Sign} (ha : AfterComments behind after) :
          AfterComments d.rest after := by
        rw [hsplit]
        exact .comment hbody ha
      have hopens' : ¬ OpensWithSwitches behind := by
        rintro ⟨letters, after, ha, hletters⟩
        exact hopens ⟨letters, after, hafter ha, hletters⟩
      obtain ⟨rfl, ⟨after, ha, rfl⟩, hothers⟩ := ih hopens' h
      refine ⟨rfl, ⟨after, hafter ha, rfl⟩, fun u hu => ?_⟩
      rw [readLeadingSwitches_comment n u hrest]
      exact bind_eq_ok.mpr ⟨name, _, htake, hothers u hu⟩
    · have hother (u : Switches) (hu : u.isSpaced = false) :
          readLeadingSwitches (n + 1) u d = .ok (u, d) := by
        refine readLeadingSwitches_other _ hu (fun rest hrest => hcomment ⟨rest, hrest⟩) ?_
        intro c rest after hrest hc hafter
        refine hopens ⟨c :: leading Switches.letters.contains rest, after, ?_, by simp, ?_⟩
        · have hsplit := map_plain_leading Switches.letters.contains rest
          rw [hafter] at hsplit
          rw [hrest]
          simp only [List.map_cons, List.cons_append, hsplit]
          exact .none _
        · intro e he
          obtain rfl | he := List.mem_cons.mp he
          · exact hc
          · simpa using holds_of_mem_leading he
      rw [hother w hw] at h
      cases h
      exact ⟨rfl, ⟨_, .none _, rfl⟩, hother⟩

/-! ## Comments and groups -/

section
variable {n : Nat} {w : Switches} {d d' : Draft}

/-- An opening parenthesis opens a group, whether blanks count or not. -/
theorem readSequence_group (n : Nat) (w : Switches) (items : List Item) {d : Draft}
    {rest : List Sign} (h : d.rest = .plain '(' :: rest) :
    readSequence (n + 1) w items d =
      (readGroup n w >>= fun p => readSequence n w ((p.map (⟨·, true⟩)).toList ++ items))
        { d with rest := rest } := by
  obtain ⟨_, groups, names, fence, asked⟩ := d
  obtain rfl := h
  have hspacing : isSpacing '(' = false := by decide
  rw [readSequence, bind_of_ok rfl]
  simp only [reduceCtorEq, Option.some.injEq, Sign.plain.injEq]
  rw [if_neg (by decide), bind_of_ok rfl]
  simp only [hspacing, Bool.and_false, Bool.false_eq_true, if_false, Char.reduceEq, decide_false,
    if_true]
  refine congrFun (congrArg (readGroup n w >>= ·) (funext fun p => ?_)) _
  cases p <;> rfl

theorem readSequence_comment (n : Nat) (w : Switches) (items : List Item) {d : Draft}
    {taken rest : List Sign} (htaken : ∀ sign ∈ taken, sign ≠ .plain ')')
    (h : d.rest = .plain '(' :: .plain '?' :: .plain '#' :: taken ++ .plain ')' :: rest) :
    readSequence (n + 2) w items d = readSequence (n + 1) w items { d with rest := rest } := by
  obtain ⟨_, groups, names, fence, asked⟩ := d
  obtain rfl := h
  have htake : takeUntil ')' ⟨taken ++ .plain ')' :: rest, groups, names, fence, asked⟩ =
      .ok (taken.flatMap Sign.text, ⟨rest, groups, names, fence, asked⟩) :=
    takeUntil_eq_ok.mpr ⟨taken, rest, rfl, htaken, rfl, rfl⟩
  have hgroup : readGroup (n + 1) w
      ⟨.plain '?' :: .plain '#' :: (taken ++ .plain ')' :: rest), groups, names, fence, asked⟩ =
        .ok (none, ⟨rest, groups, names, fence, asked⟩) :=
    bind_eq_ok.mpr ⟨true, _, rfl, bind_eq_ok.mpr ⟨.plain '#', _, rfl,
      bind_eq_ok.mpr ⟨_, _, htake, rfl⟩⟩⟩
  rw [readSequence_group (n + 1) w items rfl]
  exact bind_of_ok hgroup

/-- A group without a name is what stands in it. -/
theorem readSequence_body (n : Nat) (w : Switches) (items : List Item) {d : Draft}
    {rest : List Sign} (h : d.rest = .plain '(' :: .plain '?' :: .plain ':' :: rest) :
    readSequence (n + 3) w items d =
      (do
        let p ← readAlternatives n w
        expect ')'
        readSequence (n + 2) w (⟨p, true⟩ :: items)) { d with rest := rest } := by
  obtain ⟨_, groups, names, fence, asked⟩ := d
  obtain rfl := h
  have hgroup : readGroup (n + 2) w
      ⟨.plain '?' :: .plain ':' :: rest, groups, names, fence, asked⟩ =
        readBody (n + 1) w ⟨rest, groups, names, fence, asked⟩ := by
    rw [readGroup, bind_of_ok rfl, if_neg (by decide), bind_of_ok rfl]
    rfl
  rw [readSequence_group (n + 2) w items rfl]
  have hbind : (readGroup (n + 2) w >>= fun p =>
      readSequence (n + 2) w ((p.map (⟨·, true⟩)).toList ++ items))
        ⟨.plain '?' :: .plain ':' :: rest, groups, names, fence, asked⟩ =
      (readBody (n + 1) w >>= fun p =>
        readSequence (n + 2) w ((p.map (⟨·, true⟩)).toList ++ items))
          ⟨rest, groups, names, fence, asked⟩ := by
    show Except.bind _ _ = Except.bind _ _
    rw [hgroup]
  rw [hbind, readBody]
  simp only [bind_assoc, pure_bind]
  rfl

theorem readAlternatives_mono (hw : w.isSpaced = false) {n m : Nat} (hle : n ≤ m)
    {r : Pattern × Draft} (h : readAlternatives n w d = .ok r) :
    readAlternatives m w d = .ok r := by
  obtain ⟨p, d'⟩ := r
  have hclosing : Closing [] := by simp [Closing]
  obtain ⟨q, hq, hpq⟩ :=
    ((readsCarry hclosing True n).alternatives hle (.refl w) d p d' h).2 (.inl hw)
  rw [← hpq.1 trivial] at hq
  simpa [Draft.append] using hq

theorem readAlternatives_comment (hw : w.isSpaced = false) {n : Nat} {r : Pattern × Draft}
    {taken rest : List Sign} (htaken : ∀ sign ∈ taken, sign ≠ .plain ')')
    (hd : d.rest = .plain '(' :: .plain '?' :: .plain '#' :: taken ++ .plain ')' :: rest)
    (h : readAlternatives n w { d with rest := rest } = .ok r) :
    readAlternatives (n + 1) w d = .ok r := by
  obtain _ | n := n
  · cases h
  obtain ⟨p, d₁, hsequence, hmore⟩ := bind_eq_ok.mp h
  obtain _ | n := n
  · cases hsequence
  refine bind_eq_ok.mpr ⟨p, d₁, (readSequence_comment n w [] htaken hd).trans hsequence, ?_⟩
  obtain ⟨more, d₂, hbar, hmore⟩ := bind_eq_ok.mp hmore
  refine bind_eq_ok.mpr ⟨more, d₂, hbar, ?_⟩
  cases more with
  | false => exact hmore
  | true =>
    obtain ⟨q, d₃, hq, hmore⟩ := bind_eq_ok.mp hmore
    exact bind_eq_ok.mpr ⟨q, d₃, readAlternatives_mono hw (Nat.le_succ _) hq, hmore⟩

/-- Comments end with a parenthesis and do not depend on what stands behind. -/
theorem AfterComments.suffix {l after : List Sign} (h : AfterComments l after) :
    ∃ taken, l = taken ++ after ∧ taken.getLast? ≠ some .cut ∧
      ∀ other, AfterComments (taken ++ other) other := by
  induction h with
  | none l => exact ⟨[], rfl, by simp, .none⟩
  | @comment taken rest after htaken _ ih =>
    obtain ⟨more, rfl, hmore, hother⟩ := ih
    refine ⟨.plain '(' :: .plain '?' :: .plain '#' :: taken ++ .plain ')' :: more, by simp, ?_,
      fun other => ?_⟩
    · rw [List.getLast?_append, List.getLast?_cons]
      cases hlast : more.getLast? with
      | none => simp
      | some sign => simpa [hlast] using hmore
    · rw [List.append_assoc]
      exact .comment htaken (hother other)

theorem AfterComments.length_le {l after : List Sign} (h : AfterComments l after) :
    after.length ≤ l.length := by
  obtain ⟨taken, rfl, -, -⟩ := h.suffix
  simp

/-- Comments before alternatives are nothing, with a little more fuel. -/
theorem readAlternatives_afterComments (hw : w.isSpaced = false) {l after : List Sign}
    (hafter : AfterComments l after) {n m : Nat} (hle : n + l.length ≤ m + after.length)
    {r : Pattern × Draft} (h : readAlternatives n w { d with rest := after } = .ok r) :
    readAlternatives m w { d with rest := l } = .ok r := by
  induction hafter generalizing m with
  | none l => exact readAlternatives_mono hw (by omega) h
  | @comment taken rest after htaken hafter ih =>
    simp only [List.length_append, List.length_cons] at hle
    obtain ⟨m, rfl⟩ : ∃ k, m = k + 1 := ⟨m - 1, by have := hafter.length_le; omega⟩
    exact readAlternatives_comment hw htaken rfl (ih (by omega) h)

/-! ## Switches in a group -/

theorem readLetters_eq {c : Char} {letters : List Char} {after : List Sign}
    (hletters : ∀ c ∈ letters, c ∈ Switches.letters)
    (hd : d.rest = letters.map .plain ++ .plain ')' :: after) :
    readLetters c d = .ok ((c :: letters, ')'), { d with rest := after }) := by
  have hleading : leading Switches.letters.contains d.rest = letters := by
    rw [hd, leading_map_plain (by simpa using hletters) (by decide)]
  have hlen : letters.length ≤ d.rest.length := by simp [hd]
  have htake : takeWhile Switches.letters.contains d.rest.length d =
      .ok (letters, { d with rest := .plain ')' :: after }) := by
    have hread : takeWhile Switches.letters.contains d.rest.length d = .ok
        ((leading Switches.letters.contains d.rest).take d.rest.length, { d with
          rest := d.rest.drop
            ((leading Switches.letters.contains d.rest).take d.rest.length).length }) := rfl
    have hdrop : d.rest.drop letters.length = .plain ')' :: after := by simp [hd]
    rw [hread, hleading, List.take_of_length_le hlen, hdrop]
  exact bind_eq_ok.mpr ⟨d, d, rfl, bind_eq_ok.mpr ⟨letters, _, htake, rfl⟩⟩

theorem readSwitches_letters (w : Switches) {c : Char} {letters : List Char} {after : List Sign}
    (hc : c ∈ Switches.letters) (hletters : ∀ c ∈ letters, c ∈ Switches.letters)
    (hd : d.rest = letters.map .plain ++ .plain ')' :: after) :
    readSwitches w c d = .error .malformed := by
  have hdash : c ≠ '-' := by
    rintro rfl
    revert hc
    decide
  rw [readSwitches, if_neg hdash, bind_of_ok (readLetters_eq hletters hd)]
  dsimp only
  split <;> rfl

theorem readGroup_letters (n : Nat) (w : Switches) {c : Char} {letters : List Char}
    {after : List Sign} (hc : c ∈ Switches.letters) (hletters : ∀ c ∈ letters, c ∈ Switches.letters)
    (hd : d.rest = .plain '?' :: .plain c :: letters.map .plain ++ .plain ')' :: after) :
    readGroup n w d = .error .malformed := by
  cases n with
  | zero => rfl
  | succ n =>
    obtain ⟨_, groups, names, fence, asked⟩ := d
    obtain rfl := hd
    have hswitches : (readSwitches w c >>= readBody n)
        ⟨letters.map .plain ++ .plain ')' :: after, groups, names, fence, asked⟩ =
          .error .malformed :=
      bind_of_error (readSwitches_letters w hc hletters rfl)
    rw [readGroup, List.cons_append, bind_of_ok rfl, if_neg (by decide), bind_of_ok rfl]
    simp only [Switches.letters, List.mem_cons, List.not_mem_nil, or_false] at hc
    obtain rfl | rfl | rfl | rfl | rfl | rfl | rfl | rfl := hc <;> exact hswitches

theorem readSequence_switches (n : Nat) (w : Switches) (items : List Item) {letters : List Char}
    {after : List Sign} (hne : letters ≠ []) (hletters : ∀ c ∈ letters, c ∈ Switches.letters)
    (hd : d.rest = .plain '(' :: .plain '?' :: letters.map .plain ++ .plain ')' :: after) :
    readSequence n w items d = .error .malformed := by
  obtain ⟨c, letters, rfl⟩ := List.exists_cons_of_ne_nil hne
  rw [List.forall_mem_cons] at hletters
  cases n with
  | zero => rfl
  | succ n =>
    rw [readSequence_group n w items hd]
    exact bind_of_error (readGroup_letters n w hletters.1 hletters.2 rfl)

/-- Switches for a whole pattern stand nowhere else. -/
theorem readAlternatives_opensWithSwitches (n : Nat) (w : Switches)
    (h : OpensWithSwitches d.rest) : readAlternatives n w d = .error .malformed := by
  obtain ⟨letters, after, hafter, hne, hletters⟩ := h
  have hsequence (n : Nat) (l switches : List Sign) (hl : AfterComments l switches)
      (hs : switches = .plain '(' :: .plain '?' :: letters.map .plain ++ .plain ')' :: after) :
      readSequence n w [] { d with rest := l } = .error .malformed := by
    induction hl generalizing n with
    | none l => exact readSequence_switches n w [] hne hletters hs
    | @comment taken rest switches htaken _ ih =>
      obtain _ | _ | n := n
      · rfl
      · exact readSequence_group 0 w [] rfl
      · rw [readSequence_comment n w [] htaken rfl]
        exact ih _ hs
  cases n with
  | zero => rfl
  | succ n => exact bind_of_error (hsequence n d.rest _ hafter rfl)

/-! ## Whole patterns -/

theorem readSequence_end (n : Nat) (q : Pattern) (groups : List (Option Width))
    (names : List (List Char × Nat)) (fence : Option Nat) (asked : Nat) :
    readSequence (n + 2) .none [⟨q, true⟩] ⟨[.plain '$'], groups, names, fence, asked⟩ =
      .ok (q.anchored, ⟨[], groups, names, fence, asked⟩) := rfl

theorem readWhole_eq_ok {p : Pattern} :
    readWhole w d = .ok (p, d') ↔
      ∃ v d₁, readLeadingSwitches d.rest.length w d = .ok (v, d₁) ∧
        readAlternatives (4 * d₁.rest.length + 4) v d₁ = .ok (p, d') ∧
          d'.rest = [] ∧ d'.asked ≤ d'.groups.length := by
  have hclose (p q : Pattern) (d e : Draft) : (do
      if (← peek) ≠ Option.none || (← groupCount) < (← get).asked then refuse
      return p : Reading Pattern) d = .ok (q, e) ↔
        q = p ∧ e = d ∧ d.rest = [] ∧ d.asked ≤ d.groups.length := by
    cases hrest : d.rest with
    | nil =>
      have hpeek : peek d = .ok (Option.none, d) := by rw [peek_eq, hrest]
      rw [bind_of_ok hpeek, bind_of_ok rfl, bind_of_ok rfl]
      by_cases hasked : d.groups.length < d.asked
      · simp only [hasked, ne_eq, not_true_eq_false, decide_false, decide_true, Bool.or_true,
          if_true]
        exact ⟨fun h => (nomatch h), fun h => absurd hasked (Nat.not_lt.mpr h.2.2.2)⟩
      · simp only [hasked, ne_eq, not_true_eq_false, decide_false, Bool.or_false,
          Bool.false_eq_true, if_false, true_and]
        rw [pure_eq_ok]
        exact ⟨fun h => ⟨h.1, h.2, Nat.not_lt.mp hasked⟩, fun h => ⟨h.1, h.2.1⟩⟩
    | cons sign rest =>
      refine ⟨fun h => ?_, fun h => by simp at h⟩
      obtain ⟨o, d₁, hpeek, h⟩ := bind_eq_ok.mp h
      obtain ⟨count, d₂, hcount, h⟩ := bind_eq_ok.mp h
      obtain ⟨e, d₃, hget, h⟩ := bind_eq_ok.mp h
      rw [peek_eq, hrest] at hpeek
      cases sign with
      | cut => cases hpeek
      | plain c | escaped c =>
        cases hpeek
        cases h
  unfold readWhole
  constructor
  · intro h
    obtain ⟨_, _, ⟨⟩, h⟩ := bind_eq_ok.mp h
    obtain ⟨v, d₁, hv, h⟩ := bind_eq_ok.mp h
    obtain ⟨_, _, ⟨⟩, h⟩ := bind_eq_ok.mp h
    obtain ⟨q, d₂, hq, h⟩ := bind_eq_ok.mp h
    obtain ⟨rfl, rfl, hrest⟩ := (hclose q p d₂ d').mp h
    exact ⟨v, d₁, hv, hq, hrest⟩
  · rintro ⟨v, d₁, hv, hp, hrest⟩
    exact bind_eq_ok.mpr ⟨_, _, rfl, bind_eq_ok.mpr ⟨v, d₁, hv, bind_eq_ok.mpr ⟨_, _, rfl,
      bind_eq_ok.mpr ⟨p, d', hp, (hclose p p d' d').mpr ⟨rfl, rfl, hrest⟩⟩⟩⟩⟩

theorem readLeadingSwitches_group (n : Nat) {rest : List Sign}
    (hd : d.rest = .plain '(' :: .plain '?' :: .plain ':' :: rest) :
    readLeadingSwitches n .none d = .ok (.none, d) := by
  refine readLeadingSwitches_other n rfl (fun more hmore => ?_) fun c more after hmore hc => ?_
  · simp [hd] at hmore
  · obtain ⟨rfl, -⟩ : ':' = c ∧ rest = more := by simpa [hd] using hmore
    exact absurd hc (by decide)

theorem signs_enclosed (s : List Char) : signs (anchoredSource s) =
    .plain '(' :: .plain '?' :: .plain ':' :: signs (s ++ ")$".toList) := by
  rw [anchoredSource, List.append_assoc]
  rfl

/-- A pattern that begins with switches is none in a group. -/
theorem read_enclosed_error {s : List Char} (hopens : OpensWithSwitches (signs s)) :
    read .none (anchoredSource s) = .error .malformed := by
  have hopens' : OpensWithSwitches (signs (s ++ ")$".toList)) := by
    obtain ⟨letters, after, hafter, hletters⟩ := hopens
    obtain ⟨taken, htaken, -, hother⟩ := hafter.suffix
    have hsplit : signs s = ((taken ++ .plain '(' :: .plain '?' :: letters.map .plain) ++
        [.plain ')']) ++ after := by simp [htaken]
    obtain ⟨more, hmore, -⟩ := signs_append ")$".toList hsplit (by rw [List.getLast?_append]; simp)
    refine ⟨letters, more, ?_, hletters⟩
    rw [hmore]
    simp only [List.append_assoc, List.singleton_append]
    exact hother _
  have hwhole : readWhole .none ⟨signs (anchoredSource s), [], [], Option.none, 0⟩ =
      .error .malformed := by
    rw [signs_enclosed]
    refine (bind_of_ok rfl).trans ((bind_of_ok (readLeadingSwitches_group _ rfl)).trans ?_)
    refine (bind_of_ok rfl).trans (bind_of_error (bind_of_error ?_))
    rw [readSequence_body _ _ _ rfl]
    exact bind_of_error (readAlternatives_opensWithSwitches _ _ hopens')
  rw [read, hwhole]
  rfl

/-- A pattern that does not begin with switches is one without switches too, and as a group. -/
theorem read_enclosed (hw : w.isSpaced = false) {s : List Char} {p : Pattern}
    (hopens : ¬ OpensWithSwitches (signs s)) (h : read w s = .ok p) :
    ∃ q, read .none s = .ok q ∧ read .none (anchoredSource s) = .ok q.anchored ∧
      (w = .none → q = p) := by
  have hstart (w : Switches) (s : List Char) (p : Pattern) :
      read w s = .ok p ↔ ∃ d', readWhole w ⟨signs s, [], [], Option.none, 0⟩ = .ok (p, d') := by
    rw [read]
    cases readWhole w ⟨signs s, [], [], Option.none, 0⟩ <;> simp [Except.map, Prod.ext_iff]
  obtain ⟨d', hwhole⟩ := (hstart w s p).mp h
  obtain ⟨v, d₁, hv, hp, hrest, hasked⟩ := readWhole_eq_ok.mp hwhole
  obtain ⟨rfl, ⟨after, hafter, rfl⟩, hothers⟩ := leadingSwitches_eq_ok hw hopens hv
  have hnothing : Closing [] := by simp [Closing]
  have hbehind : Closing [.plain ')', .plain '$'] := by simp [Closing]
  have hsame : v.Akin (v = .none) .none := ⟨id, hw⟩
  obtain ⟨⟨taken, htaken, hcut⟩, hcarry⟩ :=
    (readsCarry hnothing (v = .none) _).alternatives (Nat.le_refl _) hsame _ p d' hp
  obtain ⟨q, hq, hpq⟩ := hcarry (.inl hw)
  simp only [Draft.append, List.append_nil] at hq
  obtain ⟨-, hcarry⟩ :=
    (readsCarry hbehind True _).alternatives (Nat.le_refl _) (.refl .none) _ q _ hq
  obtain ⟨q', hq', hqq'⟩ := hcarry (.inl rfl)
  obtain rfl := hqq'.1 trivial
  refine ⟨q, ?_, ?_, fun hw => (hpq.1 hw).symm⟩
  · rw [hstart]
    refine ⟨d', readWhole_eq_ok.mpr ⟨.none, _, hothers .none rfl, ?_, hrest, hasked⟩⟩
    exact hq
  · obtain ⟨front, hfront, hfrontCut, hother⟩ := hafter.suffix
    obtain rfl : after = taken := by simpa [hrest] using htaken
    have hsplit : signs s = (front ++ after) ++ [] := by simpa using hfront
    obtain ⟨more, hmore, hall⟩ :=
      signs_append ")$".toList hsplit (getLast?_append_ne hfrontCut hcut)
    rw [hall rfl, List.append_assoc] at hmore
    have hin : readAlternatives (4 * (signs (anchoredSource s)).length) .none
        ⟨signs (s ++ ")$".toList), [], [], Option.none, 0⟩ =
          .ok (q, d'.append [.plain ')', .plain '$']) := by
      rw [signs_enclosed, hmore]
      refine readAlternatives_afterComments rfl (hother _) ?_ hq'
      simp [signs]
      omega
    obtain ⟨_, groups, names, fence, asked⟩ := d'
    obtain rfl : _ = [] := hrest
    rw [hstart]
    refine ⟨⟨[], groups, names, fence, asked⟩, readWhole_eq_ok.mpr
      ⟨.none, _, readLeadingSwitches_group _ (signs_enclosed s), ?_, rfl, hasked⟩⟩
    refine bind_eq_ok.mpr ⟨q.anchored, ⟨[], groups, names, fence, asked⟩, ?_, rfl⟩
    rw [readSequence_body _ _ _ (signs_enclosed s)]
    refine bind_eq_ok.mpr ⟨q, _, hin, ?_⟩
    exact bind_eq_ok.mpr ⟨(), ⟨[.plain '$'], groups, names, fence, asked⟩, rfl, readSequence_end ..⟩

end
end EditorLink.Pattern
