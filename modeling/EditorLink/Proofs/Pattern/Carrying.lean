import EditorLink.Pattern.Reader
import Mathlib.Data.List.Forall2
import Mathlib.Data.List.Infix
import Mathlib.Data.List.TakeWhile
import Mathlib.Tactic.Common

/-!
# Readers with more signs behind

Whatever a part of the reader takes of a text it takes as well if a closing parenthesis and more
come behind. Only a comment up to the end of a line may run on, if there is no newline. This is
composed from the steps of a reader, beginning with those that take signs.
-/
namespace EditorLink.Pattern

/-- A draft with more signs behind those that are left. -/
def Draft.append (d : Draft) (tail : List Sign) : Draft := { d with rest := d.rest ++ tail }

@[simp] theorem Draft.rest_append (d : Draft) (tail : List Sign) :
    (d.append tail).rest = d.rest ++ tail := rfl

/-- Signs behind a part of a pattern in parentheses: none at all, or first the closing one. -/
def Closing (tail : List Sign) : Prop := ∀ sign, tail.head? = some sign → sign = .plain ')'

section
variable {α β : Type} {tail : List Sign} {free : Prop} {R : α → α → Prop} {S : β → β → Prop}

/-- What one reader takes of the signs that are left, another one takes as well when more signs are
behind, with a result that is in relation to the first one. Unless the reader is free to take all
there is, something has to be left. What is taken does not end with a backslash alone. -/
def CarriesFrom (d : Draft) (tail : List Sign) (free : Prop) (R : α → α → Prop)
    (x y : Reading α) : Prop :=
  ∀ a d', x d = .ok (a, d') →
    (∃ taken, d.rest = taken ++ d'.rest ∧ taken.getLast? ≠ some .cut) ∧
      (free ∨ d'.rest ≠ [] → ∃ b, y (d.append tail) = .ok (b, d'.append tail) ∧ R a b)

/-- So it is wherever they read. -/
def Carries (tail : List Sign) (free : Prop) (R : α → α → Prop) (x y : Reading α) : Prop :=
  ∀ d, CarriesFrom d tail free R x y

theorem bind_eq_ok {x : Reading α} {f : α → Reading β} {d : Draft} {r : β × Draft} :
    (x >>= f) d = .ok r ↔ ∃ a d', x d = .ok (a, d') ∧ f a d' = .ok r := by
  have hbind : (x >>= f) d = (x d).bind fun (a, d') => f a d' := rfl
  rw [hbind]
  cases x d with
  | error why => simp [Except.bind]
  | ok r => simp [Except.bind, Prod.ext_iff, and_assoc]

theorem bind_of_ok {x : Reading α} {f : α → Reading β} {a : α} {d d' : Draft}
    (h : x d = .ok (a, d')) : (x >>= f) d = f a d' := by
  have hbind : (x >>= f) d = (x d).bind fun (a, d') => f a d' := rfl
  rw [hbind, h]
  rfl

theorem bind_of_error {x : Reading α} {f : α → Reading β} {why : PatternError} {d : Draft}
    (h : x d = .error why) : (x >>= f) d = .error why := by
  have hbind : (x >>= f) d = (x d).bind fun (a, d') => f a d' := rfl
  rw [hbind, h]
  rfl

theorem get_bind (f : Draft → Reading β) (d : Draft) : (get >>= f) d = f d d := rfl

theorem pure_eq_ok {a b : α} {d d' : Draft} :
    (pure a : Reading α) d = .ok (b, d') ↔ b = a ∧ d' = d := by
  have hpure : (pure a : Reading α) d = .ok (a, d) := rfl
  rw [hpure]
  constructor
  · rintro ⟨⟩
    exact ⟨rfl, rfl⟩
  · rintro ⟨rfl, rfl⟩
    rfl

theorem carriesFrom_pure {d : Draft} {a b : α} (h : R a b) :
    CarriesFrom d tail free R (pure a) (pure b) := by
  intro a' d' hx
  obtain ⟨rfl, rfl⟩ := pure_eq_ok.mp hx
  exact ⟨⟨[], rfl, by simp⟩, fun _ => ⟨b, rfl, h⟩⟩

theorem carries_pure {a b : α} (h : R a b) : Carries tail free R (pure a) (pure b) :=
  fun _ => carriesFrom_pure h

theorem carries_refuse {y : Reading α} : Carries tail free R refuse y := by
  rintro d a d' ⟨⟩

theorem getLast?_append_ne {first second : List Sign} (h : first.getLast? ≠ some .cut)
    (h' : second.getLast? ≠ some .cut) : (first ++ second).getLast? ≠ some .cut := by
  rw [List.getLast?_append]
  cases hlast : second.getLast? with
  | none => simpa using h
  | some sign => simpa [hlast] using h'

/-- In a row the first reader has to be free only if nothing is left for the second one. -/
theorem CarriesFrom.bind_of_left {free' : Prop} {d : Draft} {x y : Reading α}
    {f g : α → Reading β} (refl : ∀ a, R a a) (hx : CarriesFrom d tail free' R x y)
    (hleft : ∀ a d' r, f a d' = .ok r → free → free' ∨ d'.rest ≠ [])
    (hf : ∀ a b, R a b → Carries tail free S (f a) (g b)) :
    CarriesFrom d tail free S (x >>= f) (y >>= g) := by
  intro c d₂ h
  obtain ⟨a, d₁, hread, hrest⟩ := bind_eq_ok.mp h
  obtain ⟨⟨first, htaken, hend⟩, hfirst⟩ := hx a d₁ hread
  obtain ⟨⟨second, htaken', hend'⟩, -⟩ := hf a a (refl a) d₁ c d₂ hrest
  refine ⟨⟨first ++ second, by rw [htaken, htaken', List.append_assoc],
    getLast?_append_ne hend hend'⟩, fun hfree => ?_⟩
  have hmore : free' ∨ d₁.rest ≠ [] :=
    hfree.elim (hleft a d₁ _ hrest) fun hne => .inr (by simp [htaken', hne])
  obtain ⟨b, hy, hab⟩ := hfirst hmore
  obtain ⟨e, hg, hce⟩ := (hf a b hab d₁ c d₂ hrest).2 hfree
  exact ⟨e, bind_eq_ok.mpr ⟨b, d₁.append tail, hy, hg⟩, hce⟩

theorem CarriesFrom.bind {d : Draft} {x y : Reading α} {f g : α → Reading β}
    (refl : ∀ a, R a a) (hx : CarriesFrom d tail free R x y)
    (hf : ∀ a b, R a b → Carries tail free S (f a) (g b)) :
    CarriesFrom d tail free S (x >>= f) (y >>= g) :=
  hx.bind_of_left refl (fun _ _ _ _ => .inl) hf

theorem Carries.bind {x y : Reading α} {f g : α → Reading β} (refl : ∀ a, R a a)
    (hx : Carries tail free R x y) (hf : ∀ a b, R a b → Carries tail free S (f a) (g b)) :
    Carries tail free S (x >>= f) (y >>= g) :=
  fun d => (hx d).bind refl hf

/-- A reader that needs something to read. -/
def Needs (x : Reading α) : Prop := ∀ d r, x d = .ok r → d.rest ≠ []

/-- Whoever leaves something to another reader does not have to be free. -/
theorem Carries.before {x y : Reading α} {f g : α → Reading β} (refl : ∀ a, R a a)
    (hx : Carries tail False R x y) (hneeds : ∀ a, Needs (f a))
    (hf : ∀ a b, R a b → Carries tail free S (f a) (g b)) :
    Carries tail free S (x >>= f) (y >>= g) :=
  fun d => (hx d).bind_of_left refl (fun a d' r h _ => .inr (hneeds a d' r h)) hf

/-- What is left was there before. -/
theorem Carries.needs {x y : Reading α} {f : α → Reading β} (hx : Carries tail free R x y)
    (hneeds : ∀ a, Needs (f a)) : Needs (x >>= f) := by
  intro d r h
  obtain ⟨a, d', hread, hrest⟩ := bind_eq_ok.mp h
  obtain ⟨⟨taken, htaken, -⟩, -⟩ := hx d a d' hread
  rw [htaken]
  exact List.append_ne_nil_of_right_ne_nil _ (hneeds a d' r hrest)

/-- Where both find the same, the rest may depend on it. -/
theorem Carries.andThen {x y : Reading α} {f g : α → Reading β} (hx : Carries tail free Eq x y)
    (hf : ∀ a, Carries tail free S (f a) (g a)) : Carries tail free S (x >>= f) (y >>= g) := by
  refine hx.bind (fun _ => rfl) ?_
  rintro a _ rfl
  exact hf a

/-- What depends on the draft may do so, as far as it is the same with more signs behind. -/
theorem carriesFrom_get {d : Draft} {f g : Draft → Reading β}
    (h : CarriesFrom d tail free S (f d) (g (d.append tail))) :
    CarriesFrom d tail free S (get >>= f) (get >>= g) := by
  intro a d' hx
  obtain ⟨_, _, ⟨⟩, hf⟩ := bind_eq_ok.mp hx
  exact h a d' hf

theorem carries_get {f g : Draft → Reading β}
    (h : ∀ d, CarriesFrom d tail free S (f d) (g (d.append tail))) :
    Carries tail free S (get >>= f) (get >>= g) :=
  fun d => carriesFrom_get (h d)

/-- A change that takes some signs. -/
theorem carriesFrom_modify {d : Draft} {f g : Draft → Draft} (taken : List Sign)
    (htaken : d.rest = taken ++ (f d).rest) (hend : taken.getLast? ≠ some .cut)
    (h : g (d.append tail) = (f d).append tail) :
    CarriesFrom d tail free Eq (modify f) (modify g) := by
  rintro ⟨⟩ _ ⟨⟩
  refine ⟨⟨taken, htaken, hend⟩, fun _ => ⟨(), ?_, rfl⟩⟩
  rw [← h]
  rfl

/-- A change that leaves alone the signs that are left. -/
theorem carries_modify {f g : Draft → Draft} (hrest : ∀ d, (f d).rest = d.rest)
    (h : ∀ d, g (d.append tail) = (f d).append tail) :
    Carries tail free Eq (modify f) (modify g) :=
  fun d => carriesFrom_modify [] (hrest d).symm (by simp) (h d)

theorem Carries.ite {c : Prop} [Decidable c] {x y x' y' : Reading α}
    (hyes : c → Carries tail free R x y) (hno : ¬ c → Carries tail free R x' y') :
    Carries tail free R (if c then x else x') (if c then y else y') := by
  by_cases hc : c
  · simpa [hc] using hyes hc
  · simpa [hc] using hno hc

/-- Of two readers one goes first, whatever comes behind. -/
theorem Carries.either {c : Prop} [Decidable c] {x y x' y' : Reading α} {f g : α → Reading β}
    (hyes : c → Carries tail free Eq x y) (hno : ¬ c → Carries tail free Eq x' y')
    (hf : ∀ a, Carries tail free S (f a) (g a)) :
    Carries tail free S (if c then x >>= f else x' >>= f) (if c then y >>= g else y' >>= g) :=
  .ite (fun hc => (hyes hc).andThen hf) fun hc => (hno hc).andThen hf

/-- What is refused on some condition may be refused as well with more signs behind. -/
theorem Carries.unless {c : Prop} [Decidable c] {e : PatternError} {k l : Unit → Reading α}
    (h : ¬ c → Carries tail free R (k ()) (l ())) :
    Carries tail free R (if c then throw e >>= k else k ())
      (if c then throw e >>= l else l ()) := by
  refine Carries.ite (fun _ => ?_) h
  rintro d a d' ⟨⟩

/-- Whoever is free may do what others may. -/
theorem Carries.weaken {free' : Prop} {x y : Reading α} (h : Carries tail free R x y)
    (hfree : free' → free) : Carries tail free' R x y := by
  intro d a d' hx
  obtain ⟨htaken, hcarry⟩ := h d a d' hx
  exact ⟨htaken, fun hleft => hcarry (hleft.imp_left hfree)⟩

theorem carries_demand (o : Option α) : Carries tail free Eq (demand o) (demand o) := by
  cases o with
  | none => exact carries_refuse
  | some a => exact carries_pure rfl

end

/-! ## Single signs -/

section
variable {tail : List Sign} {free : Prop} {d d' : Draft}

theorem next_eq (d : Draft) : next d =
    match d.rest with
    | [] | .cut :: _ => .error .malformed
    | sign :: rest => .ok (sign, { d with rest := rest }) := by
  obtain ⟨rest, groups, names, fence, asked⟩ := d
  match rest with
  | [] | .cut :: _ | .plain _ :: _ | .escaped _ :: _ => rfl

theorem accept_eq (c : Char) (d : Draft) : accept c d =
    match d.rest with
    | [] => .ok (false, d)
    | .cut :: _ => .error .malformed
    | sign :: rest =>
      if sign = .plain c then .ok (true, { d with rest := rest }) else .ok (false, d) := by
  obtain ⟨rest, groups, names, fence, asked⟩ := d
  match rest with
  | [] | .cut :: _ | .escaped _ :: _ => rfl
  | .plain b :: more =>
    have htest : accept c ⟨.plain b :: more, groups, names, fence, asked⟩ =
        (if some (Sign.plain b) = some (.plain c) then do
            let _ ← next
            pure true
          else pure false : Reading Bool) ⟨.plain b :: more, groups, names, fence, asked⟩ := rfl
    rw [htest]
    by_cases hb : b = c
    · simp only [hb, if_true]
      rfl
    · simp only [Option.some.injEq, Sign.plain.injEq, hb, if_false]
      rfl

theorem next_eq_ok {sign : Sign} :
    next d = .ok (sign, d') ↔
      sign ≠ .cut ∧ ∃ rest, d.rest = sign :: rest ∧ d' = { d with rest := rest } := by
  rw [next_eq]
  constructor
  · intro h
    split at h
    · cases h
    · cases h
    · rename_i first rest hcut hrest
      cases h
      exact ⟨fun hc => hcut hc, rest, hrest, rfl⟩
  · rintro ⟨hcut, rest, hrest, rfl⟩
    rw [hrest]
    cases sign with
    | cut => exact absurd rfl hcut
    | plain c => rfl
    | escaped c => rfl

theorem carries_next : Carries tail free Eq next next := by
  intro d sign d' h
  obtain ⟨hcut, rest, hrest, rfl⟩ := next_eq_ok.mp h
  refine ⟨⟨[sign], hrest, by simpa using hcut⟩, fun _ => ⟨sign, ?_, rfl⟩⟩
  exact next_eq_ok.mpr ⟨hcut, rest ++ tail, by simp [hrest], rfl⟩

theorem accept_eq_ok {c : Char} {b : Bool} :
    accept c d = .ok (b, d') ↔
      (b = true ∧ ∃ rest, d.rest = .plain c :: rest ∧ d' = { d with rest := rest }) ∨
        (b = false ∧ d.rest.head? ≠ some .cut ∧ d.rest.head? ≠ some (.plain c) ∧ d' = d) := by
  have hleft : (.ok (false, d) : Except PatternError (Bool × Draft)) = .ok (b, d') ↔
      b = false ∧ d' = d := by
    rw [Except.ok.injEq, Prod.mk.injEq, eq_comm, @eq_comm _ d]
  rw [accept_eq]
  cases hrest : d.rest with
  | nil => simp [hleft]
  | cons first rest =>
    cases first with
    | cut => simp
    | escaped e => simp [hleft]
    | plain e =>
      by_cases he : e = c
      · subst he
        simp only [if_true, Except.ok.injEq, Prod.mk.injEq, List.cons.injEq, true_and,
          exists_eq_left', List.head?_cons, ne_eq, not_true_eq_false, false_and, and_false,
          or_false]
        rw [eq_comm, @eq_comm _ d']
      · simp [hleft, he]

theorem peek_eq (d : Draft) : peek d =
    match d.rest with
    | [] => .ok (none, d)
    | .cut :: _ => .error .malformed
    | sign :: _ => .ok (some sign, d) := by
  obtain ⟨rest, groups, names, fence, asked⟩ := d
  match rest with
  | [] | .cut :: _ | .plain _ :: _ | .escaped _ :: _ => rfl

/-- Behind the end a closing parenthesis may be seen. -/
theorem carries_peek (closing : Closing tail) :
    Carries tail free (fun a b => a = b ∨ a = none ∧ b = some (.plain ')')) peek peek := by
  intro d sign d' h
  rw [peek_eq] at h
  split at h
  · rename_i hrest
    cases h
    refine ⟨⟨[], rfl, by simp⟩, fun _ => ?_⟩
    rw [peek_eq, Draft.rest_append, hrest]
    cases tail with
    | nil => exact ⟨none, rfl, .inl rfl⟩
    | cons first rest =>
      obtain rfl := closing first rfl
      exact ⟨_, rfl, .inr ⟨rfl, rfl⟩⟩
  · cases h
  · rename_i first rest hcut hrest
    cases h
    refine ⟨⟨[], rfl, by simp⟩, fun _ => ⟨some first, ?_, .inl rfl⟩⟩
    rw [peek_eq, Draft.rest_append, hrest]
    cases first with
    | cut => exact absurd rfl hcut
    | plain c | escaped c => rfl

/-- A character other than a closing parenthesis is taken or left as before. -/
theorem carries_accept (closing : Closing tail) {c : Char} (hc : c ≠ ')') :
    Carries tail free Eq (accept c) (accept c) := by
  intro d b d' h
  obtain ⟨rfl, rest, hrest, rfl⟩ | ⟨rfl, hcut, hplain, rfl⟩ := accept_eq_ok.mp h
  · refine ⟨⟨[.plain c], hrest, by simp⟩, fun _ => ⟨true, ?_, rfl⟩⟩
    exact accept_eq_ok.mpr (.inl ⟨rfl, rest ++ tail, by simp [hrest], rfl⟩)
  · have hother (sign : Sign) (hclosing : sign ≠ .plain ')') (hhead : d'.rest.head? ≠ some sign) :
        (d'.append tail).rest.head? ≠ some sign := by
      rw [Draft.rest_append, List.head?_append]
      cases hrest : d'.rest.head? with
      | some first => simpa [hrest] using hhead
      | none => simpa using fun htail => hclosing (closing sign htail)
    refine ⟨⟨[], rfl, by simp⟩, fun _ => ⟨false, accept_eq_ok.mpr (.inr ⟨rfl, ?_, ?_, rfl⟩), rfl⟩⟩
    · exact hother .cut (by simp) hcut
    · exact hother (.plain c) (by simpa using hc) hplain

theorem carries_expect (c : Char) : Carries tail free Eq (expect c) (expect c) := by
  intro d b d' h
  obtain ⟨accepted, d₁, haccept, h⟩ := bind_eq_ok.mp h
  obtain ⟨rfl, rest, hrest, rfl⟩ | ⟨rfl, -⟩ := accept_eq_ok.mp haccept
  · obtain ⟨rfl, rfl⟩ := pure_eq_ok.mp h
    refine ⟨⟨[.plain c], hrest, by simp⟩, fun _ => ⟨(), bind_eq_ok.mpr ⟨true, _, ?_, rfl⟩, rfl⟩⟩
    exact accept_eq_ok.mpr (.inl ⟨rfl, rest ++ tail, by simp [hrest], rfl⟩)
  · cases h

theorem needs_expect {β : Type} (c : Char) (f : Unit → Reading β) : Needs (expect c >>= f) := by
  intro d r h
  obtain ⟨_, _, hexpect, -⟩ := bind_eq_ok.mp h
  obtain ⟨_, _, haccept, hexpect⟩ := bind_eq_ok.mp hexpect
  obtain ⟨rfl, rest, hrest, rfl⟩ | ⟨rfl, -⟩ := accept_eq_ok.mp haccept
  · simp [hrest]
  · cases hexpect

end

/-! ## Several signs at a time -/

section
variable {tail : List Sign} {free : Prop} {p : Char → Bool}

theorem map_plain_leading (p : Char → Bool) (l : List Sign) :
    (leading p l).map .plain ++ l.drop (leading p l).length = l := by
  induction l with
  | nil => rfl
  | cons sign rest ih =>
    cases sign with
    | plain c =>
      rw [leading]
      split
      · simpa using ih
      · rfl
    | escaped c | cut => rfl

/-- A closing parenthesis ends every row of other characters. -/
theorem leading_append (closing : Closing tail) (hp : p ')' = false) (l : List Sign) :
    leading p (l ++ tail) = leading p l := by
  induction l with
  | nil =>
    cases tail with
    | nil => rfl
    | cons sign rest =>
      obtain rfl := closing sign rfl
      simp [leading, hp]
  | cons sign rest ih =>
    cases sign with
    | plain c => simp only [List.cons_append, leading, ih]
    | escaped c | cut => rfl

theorem holds_of_mem_leading {p : Char → Bool} {l : List Sign} {c : Char}
    (h : c ∈ leading p l) : p c = true := by
  induction l with
  | nil => cases h
  | cons sign rest ih =>
    cases sign with
    | plain e =>
      rw [leading] at h
      split at h
      · rename_i he
        obtain rfl | h := List.mem_cons.mp h
        · exact he
        · exact ih h
      · cases h
    | escaped e | cut => cases h

theorem leading_map_plain {p : Char → Bool} {letters : List Char} {after : List Sign}
    (hletters : ∀ c ∈ letters, p c = true) (hp : p ')' = false) :
    leading p (letters.map .plain ++ .plain ')' :: after) = letters := by
  induction letters with
  | nil => simp [leading, hp]
  | cons c letters ih =>
    rw [List.forall_mem_cons] at hletters
    rw [List.map_cons, List.cons_append, leading, if_pos hletters.1, ih hletters.2]

theorem length_leading_le (p : Char → Bool) (l : List Sign) : (leading p l).length ≤ l.length := by
  have := congrArg List.length (map_plain_leading p l)
  simp only [List.length_append, List.length_map] at this
  omega

theorem getLast?_map_plain (cs : List Char) : (cs.map Sign.plain).getLast? ≠ some .cut := by
  rw [List.getLast?_map]
  cases cs.getLast? <;> simp

/-- What is taken while characters are of a kind are plain signs. -/
theorem carriesFrom_takeWhile (closing : Closing tail) (hp : p ')' = false) {most most' : Nat}
    {d : Draft} (hmost : most' = most ∨ d.rest.length ≤ most ∧ d.rest.length ≤ most') :
    CarriesFrom d tail free Eq (takeWhile p most) (takeWhile p most') := by
  have hlen := length_leading_le p d.rest
  have hsame : (leading p (d.append tail).rest).take most' = (leading p d.rest).take most := by
    rw [Draft.rest_append, leading_append closing hp]
    obtain rfl | ⟨h, h'⟩ := hmost
    · rfl
    · rw [List.take_of_length_le (by omega), List.take_of_length_le (by omega)]
  have htaken : d.rest = ((leading p d.rest).take most).map .plain ++
      d.rest.drop ((leading p d.rest).take most).length := by
    conv_lhs => rw [← List.take_append_drop ((leading p d.rest).take most).length d.rest]
    congr 1
    have hbegins : ((leading p d.rest).take most).map .plain <+: d.rest :=
      ((List.take_prefix _ _).map _).trans ⟨_, map_plain_leading p d.rest⟩
    rw [List.prefix_iff_eq_take.mp hbegins, List.length_map]
  have hdrop : (d.append tail).rest.drop ((leading p d.rest).take most).length =
      d.rest.drop ((leading p d.rest).take most).length ++ tail := by
    rw [Draft.rest_append, List.drop_append_of_le_length (by rw [List.length_take]; omega)]
  refine carriesFrom_get (CarriesFrom.bind (fun _ => rfl) ?_ fun _ _ _ => carries_pure hsame.symm)
  refine carriesFrom_modify _ htaken (getLast?_map_plain _) ?_
  simp only [hsame, hdrop]
  rfl

theorem carries_takeWhile (closing : Closing tail) (hp : p ')' = false) (most : Nat) :
    Carries tail free Eq (takeWhile p most) (takeWhile p most) :=
  fun _ => carriesFrom_takeWhile closing hp (.inl rfl)

section
variable {stop : Sign} {taken rest : List Sign}

theorem takeWhile_stop (h : ∀ sign ∈ taken, sign ≠ stop) :
    (taken ++ stop :: rest).takeWhile (· ≠ stop) = taken := by
  rw [List.takeWhile_append_of_pos (by simpa using h)]
  simp

/-- Either a sign does not come at all, or it comes for the first time. -/
theorem exists_stop (stop : Sign) (l : List Sign) :
    (∀ sign ∈ l, sign ≠ stop) ∨
      ∃ taken rest, l = taken ++ stop :: rest ∧ ∀ sign ∈ taken, sign ≠ stop := by
  induction l with
  | nil => simp
  | cons sign rest ih =>
    by_cases hs : sign = stop
    · exact .inr ⟨[], rest, by simp [hs], by simp⟩
    · obtain ih | ⟨taken, rest, rfl, ih⟩ := ih
      · exact .inl (by simpa [hs] using ih)
      · exact .inr ⟨sign :: taken, rest, rfl, by simpa [hs] using ih⟩

end

/-- Everything up to a character is taken if the character comes at all. -/
theorem takeUntil_eq_ok {stop : Char} {d d' : Draft} {name : List Char} :
    takeUntil stop d = .ok (name, d') ↔
      ∃ taken rest, d.rest = taken ++ .plain stop :: rest ∧ (∀ sign ∈ taken, sign ≠ .plain stop) ∧
        name = taken.flatMap Sign.text ∧ d' = { d with rest := rest } := by
  have hread : takeUntil stop d =
      if (d.rest.takeWhile (· ≠ .plain stop)).length = d.rest.length then .error .malformed
      else .ok ((d.rest.takeWhile (· ≠ .plain stop)).flatMap Sign.text,
        { d with rest := d.rest.drop ((d.rest.takeWhile (· ≠ .plain stop)).length + 1) }) := by
    have hget : takeUntil stop d = ((if (d.rest.takeWhile (· ≠ .plain stop)).length = d.rest.length
        then refuse >>= fun _ => _ else _ : Reading (List Char)) d) := rfl
    rw [hget]
    split <;> rfl
  have hfound {taken rest : List Sign} (h : ∀ sign ∈ taken, sign ≠ .plain stop)
      (hrest : d.rest = taken ++ .plain stop :: rest) :
      takeUntil stop d = .ok (taken.flatMap Sign.text, { d with rest := rest }) := by
    rw [hread, hrest, takeWhile_stop h, if_neg (by simp)]
    simp
  constructor
  · intro h
    obtain hnone | ⟨taken, rest, hrest, htaken⟩ := exists_stop (.plain stop) d.rest
    · rw [hread, List.takeWhile_eq_self_iff.mpr (by simpa using hnone), if_pos rfl] at h
      cases h
    · rw [hfound htaken hrest] at h
      cases h
      exact ⟨taken, rest, hrest, htaken, rfl, rfl⟩
  · rintro ⟨taken, rest, hrest, htaken, rfl, rfl⟩
    exact hfound htaken hrest

theorem carries_takeUntil (stop : Char) :
    Carries tail free Eq (takeUntil stop) (takeUntil stop) := by
  intro d name d' h
  obtain ⟨taken, rest, hrest, htaken, rfl, rfl⟩ := takeUntil_eq_ok.mp h
  refine ⟨⟨taken ++ [.plain stop], by simp [hrest], by simp⟩, fun _ => ⟨_, ?_, rfl⟩⟩
  exact takeUntil_eq_ok.mpr ⟨taken, rest ++ tail, by simp [hrest], htaken, rfl, rfl⟩

theorem skipLine_eq (d : Draft) : skipLine d =
    if (d.rest.takeWhile (· ≠ .plain '\n')).contains .cut then .error .malformed
    else .ok ((), { d with
      rest := d.rest.drop ((d.rest.takeWhile (· ≠ .plain '\n')).length + 1) }) := by
  have hget : skipLine d = ((if (d.rest.takeWhile (· ≠ .plain '\n')).contains .cut
      then refuse >>= fun _ => _ else _ : Reading Unit) d) := rfl
  rw [hget]
  split <;> rfl

/-- A comment up to the end of a line ends there if something is left. -/
theorem carries_skipLine : Carries tail False Eq skipLine skipLine := by
  intro d _ d' h
  rw [skipLine_eq] at h
  obtain hnone | ⟨taken, rest, hrest, htaken⟩ := exists_stop (.plain '\n') d.rest
  · rw [List.takeWhile_eq_self_iff.mpr (by simpa using hnone)] at h
    split at h
    · cases h
    · rename_i hcut
      cases h
      refine ⟨⟨d.rest, by simp, fun hlast => hcut ?_⟩, by simp⟩
      simpa using List.mem_of_getLast? hlast
  · rw [hrest, takeWhile_stop htaken] at h
    split at h
    · cases h
    · rename_i hcut
      cases h
      refine ⟨⟨taken ++ [.plain '\n'], by simp [hrest], by simp⟩, fun _ => ⟨(), ?_, rfl⟩⟩
      have hrest' : (d.append tail).rest = taken ++ .plain '\n' :: (rest ++ tail) := by simp [hrest]
      rw [skipLine_eq, hrest', takeWhile_stop htaken, if_neg hcut]
      simp [Draft.append]

end
end EditorLink.Pattern
