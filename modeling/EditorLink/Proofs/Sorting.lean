import Mathlib.Data.List.Pairwise
import Mathlib.Data.List.Sort
import Mathlib.Data.Prod.Lex

/-!
# Stable sorting

A list that is sorted by a key, with the entries of one key in their old order, is known by three
facts: nothing is lost or invented, keys ascend, and the entries of each key stand as they stood
before. So sorting by one key and then by another is sorting once by both, the later one first.
-/
namespace EditorLink
variable {α κ μ : Type} [LinearOrder κ] [LinearOrder μ] {f : α → κ} {g : α → μ} {l t u : List α}

/-- The entries of a list by a key, those of one key in the order of the list. -/
def sortBy (f : α → κ) (l : List α) : List α := l.mergeSort fun a b => decide (f a ≤ f b)

/-- A list is another one sorted by a key, with the entries of each key in their old order. -/
structure SortedStably (f : α → κ) (l t : List α) : Prop where
  perm : t.Perm l
  ascending : t.Pairwise fun a b => f a ≤ f b
  ties : ∀ k, t.filter (fun a => f a = k) = l.filter fun a => f a = k

theorem sortBy_perm (f : α → κ) (l : List α) : (sortBy f l).Perm l := List.mergeSort_perm l _

theorem pairwise_sortBy (f : α → κ) (l : List α) : (sortBy f l).Pairwise fun a b => f a ≤ f b := by
  have hsorted : (sortBy f l).Pairwise fun a b => decide (f a ≤ f b) = true :=
    List.pairwise_mergeSort (fun a b c => by simpa using le_trans)
      (fun a b => by simpa using le_total (f a) (f b)) l
  exact hsorted.imp of_decide_eq_true

/-- The entries of one key are in order from the beginning, so they are kept as they stand where all
that is in order is kept. -/
theorem filter_eq_of_keeps (hperm : t.Perm l)
    (hkeeps : ∀ c : List α, (c.Pairwise fun a b => f a ≤ f b) → c.Sublist l → c.Sublist t) (k : κ) :
    t.filter (fun a => f a = k) = l.filter fun a => f a = k := by
  have htied : (l.filter fun a => f a = k).Pairwise fun a b => f a ≤ f b := by
    refine List.pairwise_of_forall_mem_list fun a ha b hb => ?_
    have ha := of_decide_eq_true (List.mem_filter.mp ha).2
    have hb := of_decide_eq_true (List.mem_filter.mp hb).2
    exact (ha.trans hb.symm).le
  have hsub := (hkeeps _ htied List.filter_sublist).filter fun a => f a = k
  rw [List.filter_filter] at hsub
  simp only [Bool.and_self] at hsub
  exact (hsub.eq_of_length (hperm.filter _).length_eq.symm).symm

theorem filter_sortBy (f : α → κ) (l : List α) (k : κ) :
    (sortBy f l).filter (fun a => f a = k) = l.filter fun a => f a = k :=
  filter_eq_of_keeps (sortBy_perm f l) (fun _ hc hsub =>
    List.sublist_mergeSort (fun a b c => by simpa using le_trans)
      (fun a b => by simpa using le_total (f a) (f b)) (hc.imp decide_eq_true) hsub) k

theorem sortedStably_sortBy (f : α → κ) (l : List α) : SortedStably f l (sortBy f l) :=
  ⟨sortBy_perm f l, pairwise_sortBy f l, filter_sortBy f l⟩

theorem mem_of_filter_eq (h : ∀ k, t.filter (fun a => f a = k) = u.filter fun a => f a = k)
    {a : α} (ha : a ∈ t) : a ∈ u := by
  have hmem : a ∈ t.filter fun b => f b = f a := List.mem_filter.mpr ⟨ha, by simp⟩
  rw [h] at hmem
  exact (List.mem_filter.mp hmem).1

/-- Two lists that ascend and agree on the entries of each key are the same. -/
theorem eq_of_ascending (ht : t.Pairwise fun a b => f a ≤ f b)
    (hu : u.Pairwise fun a b => f a ≤ f b)
    (h : ∀ k, t.filter (fun a => f a = k) = u.filter fun a => f a = k) : t = u := by
  induction t generalizing u with
  | nil =>
    refine (List.eq_nil_iff_forall_not_mem.mpr fun b hb => ?_).symm
    exact List.not_mem_nil (mem_of_filter_eq (fun k => (h k).symm) hb)
  | cons a t ih =>
    obtain ⟨hfirst, ht⟩ := List.pairwise_cons.mp ht
    have ha : a ∈ u := mem_of_filter_eq h List.mem_cons_self
    obtain ⟨b, u, rfl⟩ := List.exists_cons_of_ne_nil (List.ne_nil_of_mem ha)
    obtain ⟨hfirst', hu'⟩ := List.pairwise_cons.mp hu
    have hb : b ∈ a :: t := mem_of_filter_eq (fun k => (h k).symm) List.mem_cons_self
    -- each of the two first entries has the least key, and it is the first one of that key
    have hle : ∀ c ∈ a :: t, f a ≤ f c := List.forall_mem_cons.mpr ⟨le_refl (f a), hfirst⟩
    have hle' : ∀ c ∈ b :: u, f b ≤ f c := List.forall_mem_cons.mpr ⟨le_refl (f b), hfirst'⟩
    have hkey : f a = f b := le_antisymm (hle b hb) (hle' a ha)
    have hhead := h (f a)
    rw [List.filter_cons_of_pos (by simp), List.filter_cons_of_pos (by simp [hkey])] at hhead
    obtain ⟨rfl, -⟩ := List.cons_eq_cons.mp hhead
    refine congrArg (List.cons a) (ih ht hu' fun k => ?_)
    have hk := h k
    by_cases hak : f a = k
    · rw [List.filter_cons_of_pos (by simpa using hak),
        List.filter_cons_of_pos (by simpa using hak)] at hk
      exact (List.cons_eq_cons.mp hk).2
    · rwa [List.filter_cons_of_neg (by simpa using hak),
        List.filter_cons_of_neg (by simpa using hak)] at hk

/-- There is one stable sort by a key. -/
theorem SortedStably.eq_sortBy (h : SortedStably f l t) : t = sortBy f l :=
  eq_of_ascending h.ascending (pairwise_sortBy f l) fun k => by rw [h.ties, filter_sortBy]

/-- Entries inserted one after another are sorted the same, by a recursion that can be followed. -/
theorem sortBy_eq_insertionSort (f : α → κ) (l : List α) :
    sortBy f l = l.insertionSort fun a b => f a ≤ f b := by
  have : Std.Total fun a b => f a ≤ f b := ⟨fun a b => le_total (f a) (f b)⟩
  have : IsTrans α fun a b => f a ≤ f b := ⟨fun _ _ _ => le_trans⟩
  have hperm : (l.insertionSort fun a b => f a ≤ f b).Perm l := List.perm_insertionSort _ l
  have hsorted : SortedStably f l (l.insertionSort fun a b => f a ≤ f b) :=
    ⟨hperm, List.pairwise_insertionSort _ l,
      filter_eq_of_keeps hperm fun _ hc hsub => List.sublist_insertionSort hc hsub⟩
  exact hsorted.eq_sortBy.symm

/-- What is sorted by one key and then by another is sorted by both, the later one first. -/
theorem SortedStably.trans (hf : SortedStably f l t) (hg : SortedStably g t u) :
    SortedStably (fun a => toLex (g a, f a)) l u where
  perm := hg.perm.trans hf.perm
  ascending := by
    refine List.pairwise_iff_forall_sublist.mpr fun {a b} hab => ?_
    have hle := List.pairwise_iff_forall_sublist.mp hg.ascending hab
    obtain hlt | heq := hle.lt_or_eq
    · exact Prod.Lex.toLex_le_toLex.mpr (.inl hlt)
    · have hpair := hab.filter fun c => g c = g b
      rw [hg.ties, List.filter_cons_of_pos (by simpa using heq),
        List.filter_cons_of_pos (by simp)] at hpair
      have hle' := List.pairwise_iff_forall_sublist.mp hf.ascending
        (hpair.trans List.filter_sublist)
      exact Prod.Lex.toLex_le_toLex.mpr (.inr ⟨heq, hle'⟩)
  ties k := by
    have hsplit (v : List α) : v.filter (fun a => toLex (g a, f a) = k) =
        (v.filter fun a => g a = (ofLex k).1).filter fun a => f a = (ofLex k).2 := by
      rw [List.filter_filter]
      refine List.filter_congr fun a _ => ?_
      rw [← Bool.decide_and]
      exact decide_eq_decide.mpr ((Prod.ext_iff (x := (g a, f a)) (y := ofLex k)).trans and_comm)
    have hswap (v : List α) (p q : α → Bool) : (v.filter p).filter q = (v.filter q).filter p := by
      simp only [List.filter_filter, Bool.and_comm]
    rw [hsplit, hsplit, hg.ties, hswap, hf.ties, hswap]

/-- Sorting by a key does not depend on more of it than the order that it gives. -/
theorem sortBy_congr (h : ∀ a b, f a ≤ f b ↔ g a ≤ g b) (l : List α) : sortBy f l = sortBy g l := by
  unfold sortBy
  congr 1
  funext a b
  exact decide_eq_decide.mpr (h a b)

end EditorLink
