import EditorLink.Completion.Snippet
import Mathlib.Data.List.Chain
import Mathlib.Data.List.Infix
import Mathlib.Data.List.TakeWhile

/-!
# Snippets in the form that editors expect

No number stands directly behind a dollar sign in a converted snippet, and no two backslashes
stand side by side; such a text is converted to itself. Where a snippet has no backslashes, the
conversion does nothing but put in curly brackets: one between a dollar sign and the number
behind it, and one between the number and what follows it.
-/
namespace EditorLink.Snippet
open Character

/-- A text in which there is nothing to convert. -/
structure IsConverted (s : List Char) : Prop where
  no_place : ∀ d, isDecimal d → ¬ ['$', d] <:+: s
  no_pair : ¬ ['\\', '\\'] <:+: s

/-- Whether a character may stand behind another one in a converted text. -/
def MayFollow (a b : Char) : Prop := (a = '$' → isDecimal b = false) ∧ (a = '\\' → b ≠ '\\')

theorem isConverted_iff {s : List Char} : IsConverted s ↔ s.IsChain MayFollow := by
  constructor
  · intro h
    rw [List.isChain_iff_forall_rel_of_append_cons_cons]
    rintro a b front back rfl
    refine ⟨?_, ?_⟩
    · rintro rfl
      rw [← Bool.not_eq_true]
      exact fun hd => h.no_place b hd ⟨front, back, by simp⟩
    · rintro rfl rfl
      exact h.no_pair ⟨front, back, by simp⟩
  · intro h
    rw [List.isChain_iff_forall_rel_of_append_cons_cons] at h
    refine ⟨fun d hd hinfix => ?_, fun hinfix => ?_⟩
    · obtain ⟨front, back, rfl⟩ := hinfix
      have hapart := (h (List.append_assoc front ['$', d] back)).1 rfl
      simp [hd] at hapart
    · obtain ⟨front, back, rfl⟩ := hinfix
      exact (h (List.append_assoc front ['\\', '\\'] back)).2 rfl rfl

/-! ## Pairs of backslashes -/

/-- Whether a character may stand behind another one where pairs of backslashes are dropped. -/
def Unpaired (a b : Char) : Prop := a = '\\' → b ≠ '\\'

theorem dropBackslashPairs_cons {c : Char} {rest : List Char}
    (h : c = '\\' → rest.head? ≠ some '\\') :
    dropBackslashPairs (c :: rest) = c :: dropBackslashPairs rest := by
  rw [dropBackslashPairs]
  rintro more rfl rfl
  simp at h

theorem isChain_dropBackslashPairs (s : List Char) : (dropBackslashPairs s).IsChain Unpaired := by
  fun_induction dropBackslashPairs s with
  | case1 => exact .nil
  | case2 rest ih => exact ih
  | case3 c rest hpair ih =>
    refine ih.cons fun d hd hc => ?_
    rintro rfl
    -- The rest begins with something else, which is kept.
    cases rest with
    | nil => simp [dropBackslashPairs] at hd
    | cons e more =>
      have he : e ≠ '\\' := fun he => hpair more hc (by rw [he])
      rw [dropBackslashPairs_cons fun h => absurd h he] at hd
      exact he (by simpa using hd)

theorem dropBackslashPairs_eq_self {s : List Char} (h : s.IsChain Unpaired) :
    dropBackslashPairs s = s := by
  induction s with
  | nil => rfl
  | cons c rest ih =>
    rw [List.isChain_cons] at h
    rw [dropBackslashPairs_cons, ih h.2]
    intro hc hhead
    exact h.1 '\\' hhead hc rfl

/-! ## Numbers behind dollar signs -/

theorem head?_bracket (s : List Char) : (bracket s).head? = s.head? := by
  fun_induction bracket s with
  | case1 => rfl
  | case2 c rest h ih =>
    have hc : c = '$' := by simp_all
    simp [hc]
  | case3 => rfl

theorem mayFollow_of_ne {a : Char} (hplace : a ≠ '$') (hpair : a ≠ '\\') (b : Char) :
    MayFollow a b := ⟨fun h => absurd h hplace, fun h => absurd h hpair⟩

theorem ne_dollar {d : Char} (hd : isDecimal d) : d ≠ '$' := by
  rintro rfl
  exact absurd hd (by decide)

theorem mayFollow_of_isDecimal {d : Char} (hd : isDecimal d) (b : Char) : MayFollow d b := by
  refine mayFollow_of_ne (ne_dollar hd) ?_ b
  rintro rfl
  exact absurd hd (by decide)

theorem isChain_number_append {number rest : List Char} (hnumber : ∀ d ∈ number, isDecimal d)
    (hrest : rest.IsChain MayFollow) : (number ++ rest).IsChain MayFollow := by
  induction number with
  | nil => exact hrest
  | cons d number ih =>
    refine (ih fun e he => hnumber e (List.mem_cons_of_mem d he)).cons fun e _ => ?_
    exact mayFollow_of_isDecimal (hnumber d List.mem_cons_self) e

/-- What is put in sets every number apart from the dollar sign before it, and brings no
backslashes together. -/
theorem isChain_bracket {s : List Char} (h : s.IsChain Unpaired) :
    (bracket s).IsChain MayFollow := by
  fun_induction bracket s with
  | case1 => exact .nil
  | case2 c rest hplace ih =>
    have hafter : (rest.dropWhile isDecimal).IsChain Unpaired :=
      (List.isChain_cons.mp h).2.suffix (List.dropWhile_suffix isDecimal)
    have hclosed : ('\x7d' :: bracket (rest.dropWhile isDecimal)).IsChain MayFollow :=
      (ih hafter).cons fun d _ => mayFollow_of_ne (by decide) (by decide) d
    have hnumber : ∀ d ∈ rest.takeWhile isDecimal, isDecimal d := fun d => List.mem_takeWhile_imp
    have hbehind := isChain_number_append hnumber hclosed
    refine (hbehind.cons fun d _ => mayFollow_of_ne (by decide) (by decide) d).cons ?_
    intro d hd
    obtain rfl : '\x7b' = d := by simpa using hd
    exact ⟨fun _ => by decide, fun _ => by decide⟩
  | case3 c rest hplace ih =>
    rw [List.isChain_cons] at h
    refine (ih h.2).cons fun d hd => ?_
    rw [head?_bracket] at hd
    refine ⟨fun hc => ?_, h.1 d hd⟩
    by_contra hdecimal
    cases rest with
    | nil => simp at hd
    | cons e rest =>
      obtain rfl : e = d := by simpa using hd
      simp [hc, hdecimal] at hplace

theorem bracket_eq_self {s : List Char} (h : s.IsChain MayFollow) : bracket s = s := by
  fun_induction bracket s with
  | case1 => rfl
  | case2 c rest hplace ih =>
    cases rest with
    | nil => simp at hplace
    | cons d rest =>
      have hfollow := (List.isChain_cons_cons.mp h).1.1
      simp [List.takeWhile_cons] at hplace
      simp [hfollow hplace.1] at hplace
  | case3 c rest hplace ih => rw [ih (List.isChain_cons.mp h).2]

/-! ## What is put in -/

/-- Whether a text ends with a dollar sign and a number. -/
def endsInPlace (front : List Char) : Bool :=
  front.reverse.takeWhile isDecimal ≠ [] &&
    (front.reverse.dropWhile isDecimal).head? = some '$'

/-- What is put between two parts of a text: an opening bracket between a dollar sign and a
number, and a closing one behind such a number. -/
def putBetween (front back : List Char) : List Char :=
  if back.head?.any isDecimal then
    if front.getLast? = some '$' then ['\x7b'] else []
  else if endsInPlace front then ['\x7d'] else []

/-- The characters of a text from some place on, with what is put between them; each is marked
by whether it is put in. -/
def marked (front : List Char) : List Char → List (Char × Bool)
  | [] => (putBetween front []).map (·, true)
  | c :: rest =>
    (putBetween front (c :: rest)).map (·, true) ++ (c, false) :: marked (front ++ [c]) rest

theorem filter_marked (front back : List Char) :
    ((marked front back).filter (!·.2)).map (·.1) = back := by
  induction back generalizing front with
  | nil => simp [marked]
  | cons c rest ih => simp [marked, ih]

theorem endsInPlace_concat_of_isDecimal {d : Char} (hd : isDecimal d) (front : List Char) :
    endsInPlace (front ++ [d]) = (front.getLast? = some '$' || endsInPlace front) := by
  rw [List.getLast?_eq_head?_reverse, endsInPlace, endsInPlace, List.reverse_concat]
  simp only [List.takeWhile_cons, List.dropWhile_cons, hd, if_true]
  cases front.reverse with
  | nil => simp
  | cons c rest =>
    by_cases hc : isDecimal c
    · simp [hc, ne_dollar hc]
    · simp [hc]

theorem endsInPlace_concat_of_not_isDecimal {c : Char} (hc : isDecimal c = false)
    (front : List Char) : endsInPlace (front ++ [c]) = false := by
  simp [endsInPlace, hc]

theorem endsInPlace_number {number : List Char} (hne : number ≠ [])
    (hnumber : ∀ d ∈ number, isDecimal d) (front : List Char) :
    endsInPlace (front ++ '$' :: number) = true := by
  have hdollar : isDecimal '$' = false := by decide
  have hreverse : ∀ d ∈ number.reverse, isDecimal d := by simpa using hnumber
  have hsplit : (front ++ '$' :: number).reverse = number.reverse ++ '$' :: front.reverse := by simp
  rw [endsInPlace, hsplit, List.takeWhile_append_of_pos hreverse,
    List.dropWhile_append_of_pos hreverse]
  simp [hdollar, hne]

/-- Nothing is put between the digits of a number, and in front of it only behind a dollar sign. -/
theorem map_marked_number {number : List Char} (hnumber : ∀ d ∈ number, isDecimal d)
    {front : List Char} (hfront : front.getLast? ≠ some '$') (back : List Char) :
    (marked front (number ++ back)).map (·.1) =
      number ++ (marked (front ++ number) back).map (·.1) := by
  induction number generalizing front with
  | nil => simp
  | cons d number ih =>
    have hd := hnumber d List.mem_cons_self
    have hnext : (front ++ [d]).getLast? ≠ some '$' := by simpa using ne_dollar hd
    have hrest := ih (fun e he => hnumber e (List.mem_cons_of_mem d he)) hnext
    simp [marked, putBetween, hd, hfront, hrest]

theorem map_marked_place {number : List Char} (hne : number ≠ [])
    (hnumber : ∀ d ∈ number, isDecimal d) (front back : List Char) :
    (marked front ('$' :: (number ++ back))).map (·.1) =
      putBetween front ('$' :: (number ++ back)) ++ '$' :: '\x7b' :: number ++
        (marked (front ++ '$' :: number) back).map (·.1) := by
  obtain ⟨d, number, rfl⟩ := List.exists_cons_of_ne_nil hne
  have hd := hnumber d List.mem_cons_self
  have hlast : (front ++ ['$', d]).getLast? ≠ some '$' := by simpa using ne_dollar hd
  have hdigits :=
    map_marked_number (fun e he => hnumber e (List.mem_cons_of_mem d he)) hlast back
  have hopens : putBetween (front ++ ['$']) (d :: (number ++ back)) = ['\x7b'] := by
    simp [putBetween, hd]
  simp only [List.append_assoc, List.cons_append, List.nil_append] at hdigits
  simp [marked, hopens, hdigits, Function.comp_def]

/-- Whether a cut between two parts of a text is not inside of a place to fill in. -/
def IsOutside (front back : List Char) : Prop :=
  back.head?.any isDecimal → front.getLast? ≠ some '$' ∧ endsInPlace front = false

theorem IsOutside.endsInPlace {c : Char} {front rest : List Char}
    (h : IsOutside front (c :: rest)) : endsInPlace (front ++ [c]) = false := by
  cases hc : isDecimal c with
  | false => exact endsInPlace_concat_of_not_isDecimal hc front
  | true =>
    obtain ⟨hlast, hends⟩ := h (by simpa using hc)
    simp [endsInPlace_concat_of_isDecimal hc, hlast, hends]

theorem map_marked {front back : List Char} (h : IsOutside front back) :
    (marked front back).map (·.1) = putBetween front back ++ bracket back := by
  fun_induction bracket back generalizing front with
  | case1 => simp [marked, Function.comp_def]
  | case2 c rest hplace ih =>
    obtain ⟨rfl, hne⟩ : c = '$' ∧ rest.takeWhile isDecimal ≠ [] := by simpa using hplace
    have hnumber : ∀ d ∈ rest.takeWhile isDecimal, isDecimal d := fun d => List.mem_takeWhile_imp
    have hafter : (rest.dropWhile isDecimal).head?.any isDecimal = false := by
      have hhead := List.head?_dropWhile_not isDecimal rest
      cases hd : (rest.dropWhile isDecimal).head? with
      | none => rfl
      | some d => simpa [hd] using hhead
    have hcloses : putBetween (front ++ '$' :: rest.takeWhile isDecimal)
        (rest.dropWhile isDecimal) = ['\x7d'] := by
      simp [putBetween, hafter, endsInPlace_number hne hnumber front]
    have houtside : IsOutside (front ++ '$' :: rest.takeWhile isDecimal)
        (rest.dropWhile isDecimal) := by simp [IsOutside, hafter]
    have hrest := ih houtside
    have hplaced := map_marked_place hne hnumber front (rest.dropWhile isDecimal)
    rw [List.takeWhile_append_dropWhile] at hplaced
    simp [hplaced, hrest, hcloses]
  | case3 c rest hplace ih =>
    have hends := h.endsInPlace
    have hlast : rest.head?.any isDecimal → c ≠ '$' := by
      rintro hhead rfl
      cases rest with
      | nil => simp at hhead
      | cons d rest => simp_all
    have houtside : IsOutside (front ++ [c]) rest := fun hhead =>
      ⟨by simpa using hlast hhead, hends⟩
    have hnothing : putBetween (front ++ [c]) rest = [] := by
      by_cases hhead : rest.head?.any isDecimal
      · simp [putBetween, hhead, hlast hhead]
      · simp [putBetween, hhead, hends]
    simp [marked, ih houtside, hnothing, Function.comp_def]

/-! ## Conversion -/

theorem isConverted_convert (s : List Char) : IsConverted (convert s) :=
  isConverted_iff.mpr (isChain_bracket (isChain_dropBackslashPairs s))

theorem convert_eq_self {s : List Char} (h : IsConverted s) : convert s = s := by
  have hchain := isConverted_iff.mp h
  rw [convert, dropBackslashPairs_eq_self (hchain.imp fun a b hab => hab.2), bracket_eq_self hchain]

theorem convert_of_not_mem {s : List Char} (h : '\\' ∉ s) : convert s = bracket s := by
  have hchain : s.IsChain Unpaired := by
    rw [List.isChain_iff_forall_rel_of_append_cons_cons]
    rintro a b front back rfl rfl
    simp at h
  rw [convert, dropBackslashPairs_eq_self hchain]

/-- Converting a snippet leaves nothing to convert, so that it makes no difference to do it once
more. Without backslashes in the snippet nothing is dropped, and all that is put in are the
brackets around the numbers behind dollar signs. -/
theorem convert_normalises (s : List Char) :
    IsConverted (convert s) ∧ convert (convert s) = convert s ∧
      ('\\' ∉ s → convert s = (marked [] s).map (·.1) ∧
        ((marked [] s).filter (!·.2)).map (·.1) = s) := by
  refine ⟨isConverted_convert s, convert_eq_self (isConverted_convert s), fun h => ⟨?_, ?_⟩⟩
  · have houtside : IsOutside [] s := fun _ => ⟨by simp, by simp [endsInPlace]⟩
    have hnothing : putBetween [] s = [] := by simp [putBetween, endsInPlace]
    rw [convert_of_not_mem h, map_marked houtside, hnothing, List.nil_append]
  · exact filter_marked [] s

theorem convert_normalises_call :
    '\\' ∉ "f($1, $$23)$".toList ∧
      convert "f($1, $$23)$".toList = "f($\x7b1\x7d, $$\x7b23\x7d)$".toList ∧
      convert "f($1, $$23)$".toList = (marked [] "f($1, $$23)$".toList).map (·.1) := by
  refine ⟨by decide, by decide +kernel, ?_⟩
  exact ((convert_normalises "f($1, $$23)$".toList).2.2 (by decide)).1

-- A pair of backslashes is dropped first, so that what stood around it may become a place.
example : convert "$\\\\1".toList = "$\x7b1\x7d".toList := by decide +kernel

end EditorLink.Snippet
