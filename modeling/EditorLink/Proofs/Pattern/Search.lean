import EditorLink.Pattern
import Mathlib.Data.List.DropRight
import Mathlib.Data.List.Infix
import Mathlib.Tactic.Common

/-!
# Searching up to the end of a line

Some patterns take all that is behind a place, or nothing. On a text without newlines the
search for such a pattern finds the longest end of the text that it takes.
-/
namespace EditorLink

namespace CharSet

theorem holds_single (c d : Char) : (single c).holds d = decide (d = c) := by
  have hc : d = c ↔ c.toNat ≤ d.toNat ∧ d.toNat ≤ c.toNat := by
    rw [← Char.toNat_inj]
    omega
  simp [single, holds, CharPart.holds, CaseRule.mates, hc]

theorem holds_words (c : Char) : words.holds c = Character.isWord c := by
  simp [words, holds, CharPart.holds, CharKind.holds, CaseRule.fold]

end CharSet

namespace Cursor
variable {s : Cursor}

@[simp] theorem position_forth (s : Cursor) (n : Nat) : (s.forth n).position = s.position + n := rfl

@[simp] theorem rest_forth (s : Cursor) (n : Nat) : (s.forth n).rest = s.rest.drop n := rfl

@[simp] theorem forth_zero (s : Cursor) : s.forth 0 = s := rfl

theorem forth_forth (s : Cursor) (m n : Nat) : (s.forth m).forth n = s.forth (m + n) := by
  simp [forth, List.take_add, Nat.add_assoc]

/-- Where no newlines are left, the last line ends where the text ends. -/
theorem isAt_lastLineEnd (h : '\n' ∉ s.rest) : s.isAt .lastLineEnd = decide (s.rest = []) := by
  have hne : s.rest ≠ ['\n'] := by
    intro hs
    simp [hs] at h
  simp [isAt, hne]

end Cursor

namespace Pattern
variable {s : Cursor} {next : Goal}

theorem run_one (set : CharSet) (s : Cursor) (next : Goal) :
    (one set).run s next = if s.rest.head?.any set.holds then next (s.forth 1) else none := by
  obtain ⟨position, before, rest, groups⟩ := s
  cases rest <;> rfl

theorem run_char (c : Char) (s : Cursor) (next : Goal) :
    (char c).run s next = if s.rest.head? = some c then next (s.forth 1) else none := by
  rw [char, run_one]
  cases s.rest <;> simp [CharSet.holds_single]

/-- A text, character by character. -/
def literal : List Char → Pattern
  | [] => empty
  | c :: rest => rest.foldl (fun p d => seq p (char d)) (char c)

/-- A choice of patterns, the first one preferred. -/
def anyOf : Pattern → List Pattern → Pattern
  | p, [] => p
  | p, q :: rest => alt p (anyOf q rest)

theorem run_foldl_char (rest : List Char) (p : Pattern) (s : Cursor) (next : Goal) :
    (rest.foldl (fun p d => seq p (char d)) p).run s next =
      p.run s fun t => if rest.isPrefixOf t.rest then next (t.forth rest.length) else none := by
  induction rest generalizing p with
  | nil => simp
  | cons d rest ih =>
    rw [List.foldl_cons, ih, run]
    refine congrArg (p.run s) (funext fun t => ?_)
    rw [run_char]
    cases ht : t.rest with
    | nil => simp
    | cons c more =>
      have hlen : 1 + rest.length = (d :: rest).length := Nat.add_comm _ _
      by_cases hc : d = c
      · subst hc
        simp [ht, Cursor.forth_forth, hlen]
      · simp [hc, Ne.symm hc]

theorem run_literal (text : List Char) (s : Cursor) (next : Goal) :
    (literal text).run s next =
      if text.isPrefixOf s.rest then next (s.forth text.length) else none := by
  cases text with
  | nil => simp [literal, run]
  | cons c rest =>
    rw [literal, run_foldl_char, run_char]
    cases hs : s.rest with
    | nil => simp
    | cons d more =>
      have hlen : 1 + rest.length = (c :: rest).length := Nat.add_comm _ _
      by_cases hc : c = d
      · subst hc
        simp [hs, Cursor.forth_forth, hlen]
      · simp [hc, Ne.symm hc]

theorem run_anyOf (p : Pattern) (rest : List Pattern) (s : Cursor) (next : Goal) :
    (anyOf p rest).run s next = (p :: rest).findSome? fun q => q.run s next := by
  induction rest generalizing p with
  | nil => simp [anyOf]
  | cons q rest ih =>
    rw [anyOf, run, ih]
    conv_rhs => rw [List.findSome?_cons]
    cases p.run s next <;> rfl

/-! ## All that is left -/

/-- A match that goes on only at the end of the last line. -/
def toLineEnd : Goal := fun s => if s.isAt .lastLineEnd then some s else none

theorem run_anchored (p : Pattern) (s : Cursor) : p.anchored.run s some = p.run s toLineEnd := rfl

theorem toLineEnd_eq (h : '\n' ∉ s.rest) : toLineEnd s = if s.rest = [] then some s else none := by
  simp [toLineEnd, Cursor.isAt_lastLineEnd h]

/-- A pattern that takes all that is behind a place if that is one of some texts, and nothing
otherwise. -/
def TakesRest (p : Pattern) (takes : List Char → Bool) : Prop :=
  ∀ s : Cursor, '\n' ∉ s.rest →
    p.run s some = if takes s.rest then some (s.forth s.rest.length) else none

theorem run_literal_toLineEnd (text : List Char) (h : '\n' ∉ s.rest) :
    (literal text).run s toLineEnd =
      if text = s.rest then some (s.forth s.rest.length) else none := by
  rw [run_literal]
  by_cases hp : text <+: s.rest
  · obtain ⟨more, hmore⟩ := hp
    have hrest : (s.forth text.length).rest = more := by simp [← hmore]
    have hplain : '\n' ∉ (s.forth text.length).rest := by
      rw [hrest]
      exact fun hn => h (hmore ▸ List.mem_append_right _ hn)
    rw [if_pos (by simp [← hmore]), toLineEnd_eq hplain, hrest]
    cases more with
    | nil => simp [← hmore]
    | cons c rest => simp [← hmore]
  · have hne : text ≠ s.rest := fun he => hp (he ▸ List.prefix_refl _)
    rw [if_neg (by simpa using hp), if_neg hne]

/-- A choice of texts takes one that is all there is. -/
theorem takesRest_literals (text : List Char) (texts : List (List Char)) :
    (anyOf (literal text) (texts.map literal)).anchored.TakesRest
      fun rest => decide (rest ∈ text :: texts) := by
  intro s h
  rw [run_anchored, run_anyOf, ← List.map_cons, List.findSome?_map]
  induction text :: texts with
  | nil => simp
  | cons text rest ih =>
    rw [List.findSome?_cons, ih]
    simp only [Function.comp_apply, run_literal_toLineEnd text h, List.mem_cons]
    by_cases ht : text = s.rest
    · simp [ht]
    · simp [ht, Ne.symm ht]

/-- Characters of a set are taken up to the end as long as there are rounds left, or some are
given back in vain. -/
theorem upTo_toLineEnd (set : CharSet) {rounds : Nat} (h : '\n' ∉ s.rest)
    (hr : s.rest.length < rounds) :
    upTo (one set).run true rounds s toLineEnd =
      if s.rest.all set.holds then some (s.forth s.rest.length) else none := by
  induction rounds generalizing s with
  | zero => cases hr
  | succ n ih =>
    rw [upTo, run_one, toLineEnd_eq h]
    cases hs : s.rest with
    | nil => simp
    | cons c rest =>
      have hrest : (s.forth 1).rest = rest := by simp [hs]
      have hlen : 1 + rest.length = (c :: rest).length := Nat.add_comm _ _
      have hmore := @ih (s.forth 1)
        (by rw [hrest]; exact fun hn => h (hs ▸ List.mem_cons_of_mem _ hn))
        (by rw [hrest]; rw [hs] at hr; simpa using hr)
      rw [hrest, Cursor.forth_forth, hlen] at hmore
      cases hc : set.holds c <;> simp [hc, hmore]

/-- A run of characters of a set takes all there is, if that is not nothing. -/
theorem takesRest_times (set : CharSet) :
    (times (one set) 1 none .eager).anchored.TakesRest fun rest =>
      decide (rest ≠ []) && rest.all set.holds := by
  intro s h
  have hrun : (times (one set) 1 none .eager).anchored.run s some =
      (one set).run s fun t => upTo (one set).run true (t.rest.length + 1) t toLineEnd := rfl
  rw [hrun, run_one]
  cases hs : s.rest with
  | nil => simp
  | cons c rest =>
    have hrest : (s.forth 1).rest = rest := by simp [hs]
    have hlen : 1 + rest.length = (c :: rest).length := Nat.add_comm _ _
    have hplain : '\n' ∉ (s.forth 1).rest := by
      rw [hrest]
      exact fun hn => h (hs ▸ List.mem_cons_of_mem _ hn)
    rw [upTo_toLineEnd set hplain (Nat.lt_succ_self _), hrest, Cursor.forth_forth, hlen]
    cases hc : set.holds c <;> simp [hc]

/-! ## The longest end -/

theorem searchFrom_of_takesRest {p : Pattern} {takes : List Char → Bool} (h : p.TakesRest takes)
    {text : List Char} (hn : '\n' ∉ text) (position : Nat) (before : List Char) :
    p.searchFrom position before text = (text.tails.find? takes).map fun t =>
      (position + (text.length - t.length), position + text.length) := by
  induction text generalizing position before with
  | nil =>
    rw [searchFrom, h _ hn]
    cases ht : takes [] <;> simp [ht]
  | cons c rest ih =>
    rw [searchFrom, h _ hn, List.tails_cons, List.find?_cons]
    cases ht : takes (c :: rest) with
    | true => simp
    | false =>
      simp only [Bool.false_eq_true, if_false]
      rw [ih (fun hr => hn (List.mem_cons_of_mem _ hr))]
      refine Option.map_congr fun t hfound => ?_
      have hlen : t.length ≤ rest.length :=
        ((List.mem_tails t rest).mp (List.mem_of_find?_eq_some hfound)).length_le
      rw [List.length_cons, Prod.mk.injEq]
      exact ⟨by omega, by omega⟩

theorem find?_tails_eq_some {takes : List Char → Bool} {text t : List Char} :
    text.tails.find? takes = some t ↔
      t <:+ text ∧ takes t = true ∧ ∀ u, u <:+ text → takes u = true → u.length ≤ t.length := by
  induction text with
  | nil =>
    rw [show ([] : List Char).tails = [[]] from rfl, List.find?_singleton]
    constructor
    · intro h
      split at h <;> cases h
      exact ⟨List.suffix_refl _, ‹_›, fun u hu _ => hu.length_le⟩
    · rintro ⟨ht, htakes, -⟩
      obtain rfl := List.suffix_nil.mp ht
      rw [if_pos htakes]
  | cons c rest ih =>
    rw [List.tails_cons, List.find?_cons]
    cases hw : takes (c :: rest) with
    | true =>
      constructor
      · rintro ⟨⟩
        exact ⟨List.suffix_refl _, hw, fun u hu _ => hu.length_le⟩
      · rintro ⟨ht, -, hlongest⟩
        rw [ht.eq_of_length_le (hlongest _ (List.suffix_refl _) hw)]
    | false =>
      have hne {u : List Char} (hu : takes u = true) : u ≠ c :: rest := by
        rintro rfl
        rw [hw] at hu
        cases hu
      rw [ih]
      constructor
      · rintro ⟨ht, htakes, hlongest⟩
        refine ⟨ht.trans (List.suffix_cons _ _), htakes, fun u hu hut => ?_⟩
        exact hlongest u ((List.suffix_cons_iff.mp hu).resolve_left (hne hut)) hut
      · rintro ⟨ht, htakes, hlongest⟩
        refine ⟨(List.suffix_cons_iff.mp ht).resolve_left (hne htakes), htakes, fun u hu hut => ?_⟩
        exact hlongest u (hu.trans (List.suffix_cons _ _)) hut

/-- The search for a pattern that takes all that is left finds the longest end that it takes. -/
theorem search_of_takesRest {p : Pattern} {takes : List Char → Bool} (h : p.TakesRest takes)
    {text : List Char} (hn : '\n' ∉ text) :
    p.search text =
      (text.tails.find? takes).map fun t => (text.length - t.length, text.length) := by
  rw [search, searchFrom_of_takesRest h hn]
  simp

end Pattern
end EditorLink
