import EditorLink.Proofs.Document.Serving
import Mathlib.Data.List.Nodup
import Mathlib.Data.List.Pairwise

/-!
# Splices in turn and at once

Splices that all refer to one text take effect at once in the order of their places, whatever
order they are listed in; those that insert something at one place do so in the order of the
list. Made one after another, the last in the text first, they do the same unless two of them
end at one place: then the one that is listed later must replace something there, or what it
inserts comes in front of what was inserted before.
-/
namespace EditorLink

/-- What holds of each pair of a list holds after sorting too, where the order of the two does
not say otherwise. -/
theorem pairwise_mergeSort_stable {α : Type} {le : α → α → Bool} {R : α → α → Prop} {l : List α}
    (trans : ∀ a b c, le a b = true → le b c = true → le a c = true)
    (total : ∀ a b, (le a b || le b a) = true) (h : l.Pairwise R) :
    (l.mergeSort le).Pairwise fun a b => le a b = true ∧ (le b a = true → R a b) := by
  have hsorted := List.pairwise_mergeSort (List.zipIdxLE_trans trans) (List.zipIdxLE_total total)
    l.zipIdx
  have hperm := List.mergeSort_perm l.zipIdx (List.zipIdxLE le)
  have hnumbers : (l.zipIdx.map Prod.snd).Nodup := by
    rw [List.zipIdx_map_snd]
    exact List.nodup_range'
  have hdistinct : (l.zipIdx.mergeSort (List.zipIdxLE le)).Pairwise fun a b => a.2 ≠ b.2 :=
    List.pairwise_map.mp ((hperm.map Prod.snd).nodup_iff.mpr hnumbers)
  rw [← List.mergeSort_zipIdx, List.pairwise_map]
  refine (hsorted.and hdistinct).imp_of_mem fun {a b} ha hb hab => ?_
  have hla := List.mem_zipIdx_iff_getElem?.mp (hperm.mem_iff.mp ha)
  have hlb := List.mem_zipIdx_iff_getElem?.mp (hperm.mem_iff.mp hb)
  obtain ⟨hle, hne⟩ := hab
  by_cases hfirst : le a.1 b.1 = true
  · refine ⟨hfirst, fun hback => ?_⟩
    -- the two are tied, so they stand as they did in the list
    have hindex : a.2 ≤ b.2 := by simpa [List.zipIdxLE, hfirst, hback] using hle
    obtain ⟨hi, hai⟩ := List.getElem?_eq_some_iff.mp hla
    obtain ⟨hj, hbj⟩ := List.getElem?_eq_some_iff.mp hlb
    have hR := List.pairwise_iff_getElem.mp h a.2 b.2 hi hj (by omega)
    rwa [hai, hbj] at hR
  · simp [List.zipIdxLE, hfirst] at hle

theorem exists_split_of_pair {α : Type} {a b : α} {l : List α} (h : [a, b].Sublist l) :
    ∃ first second third, l = first ++ a :: (second ++ b :: third) := by
  obtain ⟨front, back, rfl, hfront, hback⟩ := List.cons_sublist_iff.mp h
  obtain ⟨first, middle, rfl⟩ := List.append_of_mem hfront
  obtain ⟨more, third, rfl⟩ := List.append_of_mem (List.singleton_sublist.mp hback)
  exact ⟨first, middle ++ more, third, by simp⟩

namespace Splice
variable {text t : List Char} {splices : List Splice} {a b s : Splice}

/-- A splice inside a text. -/
structure Inside (text : List Char) (s : Splice) : Prop where
  nonneg : 0 ≤ s.start
  ordered : s.start ≤ s.stop
  within : s.stop ≤ text.length

/-- Two splices replace nothing in common; they may touch. -/
def Apart (a b : Splice) : Prop := a.stop ≤ b.start ∨ b.stop ≤ a.start

/-- A splice starts no further down than another, and where they start together it ends no
further down. -/
def precedes (a b : Splice) : Bool := a.start < b.start || (a.start = b.start && a.stop ≤ b.stop)

/-- A splice ends no further up than another. -/
def endsLater (a b : Splice) : Bool := b.stop ≤ a.stop

/-- Splices in the order of their places; those at one place stay in the order of the list. -/
def inOrder (splices : List Splice) : List Splice := splices.mergeSort precedes

/-- Splices by where they end, the last first. -/
def lastFirst (splices : List Splice) : List Splice := splices.mergeSort endsLater

/-- The text after splices that all refer to it and take effect at once, in whatever order they
are listed. -/
def applyTogether (splices : List Splice) (text : List Char) : List Char :=
  applyAtOnce (inOrder splices) text

theorem precedes_iff :
    precedes a b = true ↔ a.start < b.start ∨ (a.start = b.start ∧ a.stop ≤ b.stop) := by
  simp [precedes]

theorem precedes_trans (a b c : Splice) (hab : precedes a b = true) (hbc : precedes b c = true) :
    precedes a c = true := by
  rw [precedes_iff] at *
  omega

theorem precedes_total (a b : Splice) : (precedes a b || precedes b a) = true := by
  rw [Bool.or_eq_true, precedes_iff, precedes_iff]
  omega

theorem endsLater_iff : endsLater a b = true ↔ b.stop ≤ a.stop := by
  simp [endsLater]

theorem endsLater_trans (a b c : Splice) (hab : endsLater a b = true)
    (hbc : endsLater b c = true) : endsLater a c = true := by
  rw [endsLater_iff] at *
  omega

theorem endsLater_total (a b : Splice) : (endsLater a b || endsLater b a) = true := by
  rw [Bool.or_eq_true, endsLater_iff, endsLater_iff]
  omega

theorem Apart.symm (h : Apart a b) : Apart b a := Or.symm h

theorem Apart.stop_le_start (h : Apart a b) (ha : a.Inside text) (hb : b.Inside text)
    (hab : precedes a b = true) : a.stop ≤ b.start := by
  have hab := precedes_iff.mp hab
  have hordered := ha.ordered
  have hordered' := hb.ordered
  obtain h | h := h <;> omega

/-! ## One after another, from the end -/

/-- Ascending splices that are made from the last one on do what they do at once. What lies
before an offset stays. -/
theorem applyInTurn_reverse {offset : Nat} (hasc : AscendingFrom offset splices)
    (hin : ∀ s ∈ splices, s.stop ≤ text.length) :
    applyInTurn splices.reverse text =
      text.take offset ++ applyFrom offset splices (text.drop offset) := by
  induction splices generalizing offset with
  | nil => simp [applyInTurn, applyFrom]
  | cons s rest ih =>
    obtain ⟨ha, hb, hrest⟩ := hasc
    have hs := hin s List.mem_cons_self
    have hstop : ((s.stop.toNat : Nat) : Int) = s.stop := by omega
    have hbelow := @ih s.stop.toNat (by rwa [hstop])
      fun r hr => hin r (List.mem_cons_of_mem _ hr)
    have hlength : (text.take s.stop.toNat).length = s.stop.toNat := by
      rw [List.length_take]
      omega
    have hturn : applyInTurn (s :: rest).reverse text = s.apply (applyInTurn rest.reverse text) := by
      simp [applyInTurn]
    rw [hturn, hbelow, apply, List.take_append_of_le_length (by omega), List.take_take,
      Nat.min_eq_left (by omega), List.drop_left' hlength]
    exact (take_append_applyFrom_cons text rest (by omega) (by omega)).symm

theorem ascendingFrom_of_pairwise {offset : Int} (h : splices.Pairwise fun a b => a.stop ≤ b.start)
    (hin : ∀ s ∈ splices, offset ≤ s.start ∧ s.start ≤ s.stop) : AscendingFrom offset splices := by
  induction splices generalizing offset with
  | nil => trivial
  | cons s rest ih =>
    obtain ⟨hs, hrest⟩ := List.pairwise_cons.mp h
    obtain ⟨h0, h1⟩ := hin s List.mem_cons_self
    exact ⟨h0, h1, ih hrest fun r hr => ⟨hs r hr, (hin r (List.mem_cons_of_mem _ hr)).2⟩⟩

/-- Splices that are apart are ascending in the order of their places. -/
theorem pairwise_inOrder (hin : ∀ s ∈ splices, s.Inside text) (hapart : splices.Pairwise Apart) :
    (inOrder splices).Pairwise fun a b => a.stop ≤ b.start := by
  have hperm := List.mergeSort_perm splices precedes
  have hsorted := List.pairwise_mergeSort precedes_trans precedes_total splices
  have happart' := (hperm.pairwise_iff Apart.symm).mpr hapart
  refine (hsorted.and happart').imp_of_mem fun {a b} ha hb hab => ?_
  exact hab.2.stop_le_start (hin a (hperm.mem_iff.mp ha)) (hin b (hperm.mem_iff.mp hb)) hab.1

/-- What splices do at once they do from the last place on too. -/
theorem applyTogether_eq (hin : ∀ s ∈ splices, s.Inside text) (hapart : splices.Pairwise Apart) :
    applyTogether splices text = applyInTurn (inOrder splices).reverse text := by
  have hperm := List.mergeSort_perm splices precedes
  have hin' : ∀ s ∈ inOrder splices, s.Inside text := fun s hs => hin s (hperm.mem_iff.mp hs)
  have hasc : AscendingFrom (0 : Nat) (inOrder splices) :=
    ascendingFrom_of_pairwise (pairwise_inOrder hin hapart)
      fun s hs => ⟨(hin' s hs).nonneg, (hin' s hs).ordered⟩
  rw [applyInTurn_reverse hasc fun s hs => (hin' s hs).within]
  rfl

/-- Where two splices end at one place, the one that is listed later replaces something. -/
def Ending (a b : Splice) : Prop := a.stop = b.stop → b.start < b.stop

/-- Splices that are sorted by where they end are in the order of their places then, from the
last one on. -/
theorem lastFirst_eq (hin : ∀ s ∈ splices, s.Inside text) (hapart : splices.Pairwise Apart)
    (hending : splices.Pairwise Ending) : lastFirst splices = (inOrder splices).reverse := by
  have hplaces : splices.Pairwise fun a b => ¬ (a.start = b.start ∧ a.stop = b.stop) := by
    refine (hapart.and hending).imp fun {a b} hab hsame => ?_
    have hb := hab.2 hsame.2
    obtain h | h := hab.1 <;> omega
  have hsymm : Std.Symm fun a b : Splice => ¬ (a.start = b.start ∧ a.stop = b.stop) :=
    ⟨fun a b h hsame => h ⟨hsame.1.symm, hsame.2.symm⟩⟩
  have hperm := List.mergeSort_perm splices endsLater
  have hperm' := (List.reverse_perm _).trans (List.mergeSort_perm splices precedes)
  have hfirst : (lastFirst splices).Pairwise fun a b => precedes b a = true := by
    have hboth := pairwise_mergeSort_stable endsLater_trans endsLater_total (hapart.and hending)
    have hapart' := (hperm.pairwise_iff Apart.symm).mpr hapart
    refine (hboth.and hapart').imp_of_mem fun {a b} ha hb hab => ?_
    obtain ⟨⟨hlater, htied⟩, happ⟩ := hab
    have hordered := (hin a (hperm.mem_iff.mp ha)).ordered
    have hordered' := (hin b (hperm.mem_iff.mp hb)).ordered
    rw [endsLater_iff] at hlater htied
    rw [precedes_iff]
    obtain hlt | heq := Int.lt_or_eq_of_le hlater
    · obtain h | h := happ <;> omega
    · have hb' := (htied (by omega)).2 heq.symm
      obtain h | h := happ <;> omega
  have hsecond : (inOrder splices).reverse.Pairwise fun a b => precedes b a = true :=
    List.pairwise_reverse.mpr (List.pairwise_mergeSort precedes_trans precedes_total splices)
  refine List.Perm.eq_of_pairwise ?_ hfirst hsecond (hperm.trans hperm'.symm)
  intro a b ha hb hba hab
  by_contra hne
  have hplace := hplaces.forall (hperm.mem_iff.mp ha) (hperm'.mem_iff.mp hb) hne
  rw [precedes_iff] at hab hba
  omega

/-- Splices that are made one after another, sorted by where they end, do what they do at once if
of two that end at one place the later one replaces something. -/
theorem applyInTurn_lastFirst (hin : ∀ s ∈ splices, s.Inside text)
    (hapart : splices.Pairwise Apart) (hending : splices.Pairwise Ending) :
    applyInTurn (lastFirst splices) text = applyTogether splices text := by
  rw [lastFirst_eq hin hapart hending, applyTogether_eq hin hapart]

/-! ## Two splices that end at one place -/

/-- A splice puts back what it replaces, and more behind it. -/
def Refills (text more : List Char) (s : Splice) : Prop :=
  s.inserted = (text.take s.stop.toNat).drop s.start.toNat ++ more

/-- What a splice puts back is there again, also in a text that was changed further down. -/
theorem apply_of_refills {more : List Char} {n : Nat} (h : s.Refills text more)
    (hin : s.Inside text) (ht : t.take n = text.take n) (hn : s.stop ≤ n) :
    s.apply t = text.take s.stop.toNat ++ more ++ t.drop s.stop.toNat := by
  obtain ⟨h0, h1, h2⟩ := hin
  have hstart : t.take s.start.toNat = (text.take s.stop.toNat).take s.start.toNat := by
    have hsame := congrArg (List.take s.start.toNat) ht
    rw [List.take_take, List.take_take, Nat.min_eq_left (by omega)] at hsame
    rw [hsame, List.take_take, Nat.min_eq_left (by omega)]
  rw [apply, h, hstart, ← List.append_assoc, List.take_append_drop]

theorem take_of_take {n k : Nat} (h : t.take n = text.take n) (hk : k ≤ n) :
    t.take k = text.take k := by
  have hsame := congrArg (List.take k) h
  rwa [List.take_take, List.take_take, Nat.min_eq_left hk] at hsame

/-- Splices that put back what they replace change nothing. -/
theorem applyInTurn_of_refills {n : Nat} (hrefills : ∀ s ∈ splices, s.Refills text [])
    (hin : ∀ s ∈ splices, s.Inside text) (ht : t.take n = text.take n)
    (hn : ∀ s ∈ splices, s.stop ≤ n) : applyInTurn splices t = t := by
  induction splices with
  | nil => rfl
  | cons s rest ih =>
    have hs := hn s List.mem_cons_self
    have hsame := take_of_take (k := s.stop.toNat) ht (by omega)
    have hone := apply_of_refills (hrefills s List.mem_cons_self) (hin s List.mem_cons_self) ht hs
    rw [List.append_nil, ← hsame, List.take_append_drop] at hone
    have hturn : applyInTurn (s :: rest) t = applyInTurn rest (s.apply t) := rfl
    rw [hturn, hone]
    exact ih (fun r hr => hrefills r (List.mem_cons_of_mem _ hr))
      (fun r hr => hin r (List.mem_cons_of_mem _ hr)) fun r hr => hn r (List.mem_cons_of_mem _ hr)

/-- Of two splices that end at one place, what the later one inserts comes to stand in front of
what the earlier one has inserted. -/
theorem applyInTurn_two {first second third : List Splice} {x y : List Char}
    (hin : ∀ s ∈ first ++ a :: (second ++ b :: third), s.Inside text)
    (hrefills : ∀ s ∈ first ++ (second ++ third), s.Refills text [])
    (ha : a.Refills text x) (hb : b.Refills text y) (hstop : a.stop = b.stop)
    (hbelow : ∀ s ∈ second ++ third, s.stop ≤ b.stop) :
    applyInTurn (first ++ a :: (second ++ b :: third)) text =
      text.take b.stop.toNat ++ y ++ (x ++ text.drop b.stop.toNat) := by
  have hina := hin a (by simp)
  have hinb := hin b (by simp)
  have hlen : (text.take b.stop.toNat).length = b.stop.toNat := by
    have := hinb.within
    have := hinb.nonneg
    have := hinb.ordered
    rw [List.length_take]
    omega
  have hkeeps (more : List Char) :
      (text.take b.stop.toNat ++ more).take b.stop.toNat = text.take b.stop.toNat :=
    List.take_left' hlen
  have hstops : b.stop ≤ b.stop.toNat := by omega
  have hfirst : applyInTurn first text = text :=
    applyInTurn_of_refills (n := text.length) (fun s hs => hrefills s (by simp [hs]))
      (fun s hs => hin s (by simp [hs])) rfl fun s hs => (hin s (by simp [hs])).within
  have happlya : a.apply text = text.take b.stop.toNat ++ (x ++ text.drop b.stop.toNat) := by
    rw [apply_of_refills ha hina rfl (n := b.stop.toNat) (by omega), hstop, List.append_assoc]
  -- those that come in between or afterwards put back what stands above
  have hstill {rest : List Splice} (more : List Char) (hrest : rest ⊆ second ++ third) :
      applyInTurn rest (text.take b.stop.toNat ++ more) = text.take b.stop.toNat ++ more := by
    refine applyInTurn_of_refills (n := b.stop.toNat)
      (fun s hs => hrefills s (List.mem_append_right _ (hrest hs))) (fun s hs => hin s ?_)
      (hkeeps _) fun s hs => ?_
    · have hmem := hrest hs
      simp only [List.mem_append, List.mem_cons] at hmem ⊢
      tauto
    · exact Int.le_trans (hbelow s (hrest hs)) hstops
  have happlyb : b.apply (text.take b.stop.toNat ++ (x ++ text.drop b.stop.toNat)) =
      text.take b.stop.toNat ++ (y ++ (x ++ text.drop b.stop.toNat)) := by
    rw [apply_of_refills hb hinb (hkeeps _) hstops, List.drop_left' hlen, List.append_assoc]
  have hturn : applyInTurn (first ++ a :: (second ++ b :: third)) text =
      applyInTurn third (b.apply (applyInTurn second (a.apply (applyInTurn first text)))) := by
    simp [applyInTurn]
  rw [hturn, hfirst, happlya, hstill _ (List.subset_append_left _ _), happlyb,
    hstill _ (List.subset_append_right _ _), List.append_assoc]

theorem perm_two (first second third : List Splice) (a b : Splice) :
    (first ++ a :: (second ++ b :: third)).Perm ([a, b] ++ (first ++ (second ++ third))) := by
  refine List.perm_middle.trans (List.Perm.cons a ?_)
  rw [← List.append_assoc, ← List.append_assoc]
  exact List.perm_middle

/-- In any order from the end of the text on, of two splices that end at one place the later one
comes to stand in front, if all others put back what they replace. -/
theorem applyInTurn_of_sublist {rest : List Splice} {x y : List Char}
    (hsub : [a, b].Sublist splices) (hperm : splices.Perm ([a, b] ++ rest))
    (hin : ∀ s ∈ splices, s.Inside text) (hsorted : splices.Pairwise fun s r => r.stop ≤ s.stop)
    (hrefills : ∀ s ∈ rest, s.Refills text [])
    (ha : a.Refills text x) (hb : b.Refills text y) (hstop : a.stop = b.stop) :
    applyInTurn splices text =
      text.take b.stop.toNat ++ y ++ (x ++ text.drop b.stop.toNat) := by
  obtain ⟨first, second, third, rfl⟩ := exists_split_of_pair hsub
  have hothers := (List.perm_append_left_iff _).mp ((perm_two _ _ _ a b).symm.trans hperm)
  refine applyInTurn_two hin (fun s hs => hrefills s (hothers.mem_iff.mp hs)) ha hb hstop
    fun s hs => ?_
  have hafter := (List.pairwise_cons.mp (List.pairwise_append.mp hsorted).2.1).1 s
    (by rw [List.mem_append] at hs ⊢; simpa using hs.imp_right .inr)
  omega

/-- Where two splices end at one place and the later one only inserts, they do something else in
turn than at once. -/
theorem applyInTurn_lastFirst_ne {rest : List Splice} (hsub : [a, b].Sublist splices)
    (hperm : splices.Perm ([a, b] ++ rest))
    (hin : ∀ s ∈ splices, s.Inside text) (hapart : splices.Pairwise Apart)
    (hrefills : ∀ s ∈ rest, s.Refills text []) (ha : a.Refills text ['a'])
    (hb : b.Refills text ['b']) (hstop : a.stop = b.stop) (hinsertion : b.start = b.stop) :
    applyInTurn (lastFirst splices) text ≠ applyTogether splices text := by
  have hina := hin a (hsub.subset (by simp))
  have hfirst := List.mergeSort_perm splices endsLater
  have hsecond := (List.reverse_perm _).trans (List.mergeSort_perm splices precedes)
  -- in turn the later one comes to stand in front
  have hturn : applyInTurn (lastFirst splices) text =
      text.take b.stop.toNat ++ ['b'] ++ (['a'] ++ text.drop b.stop.toNat) := applyInTurn_of_sublist
    (List.pair_sublist_mergeSort endsLater_trans endsLater_total
      (endsLater_iff.mpr (Int.le_of_eq hstop.symm)) hsub)
    (hfirst.trans hperm) (fun s hs => hin s (hfirst.mem_iff.mp hs))
    ((List.pairwise_mergeSort endsLater_trans endsLater_total splices).imp endsLater_iff.mp)
    hrefills ha hb hstop
  -- at once they stand in the order of the list, that is, in turn the earlier one comes last
  have hplaced : [b, a].Sublist (inOrder splices).reverse := by
    have hprecedes : precedes a b = true := by
      have := hina.ordered
      rw [precedes_iff]
      omega
    have hinOrder := List.pair_sublist_mergeSort precedes_trans precedes_total hprecedes hsub
    exact List.reverse_sublist.mpr hinOrder
  have hdescending : (inOrder splices).reverse.Pairwise fun s r => r.stop ≤ s.stop := by
    have hup := List.pairwise_reverse.mpr (pairwise_inOrder hin hapart)
    refine hup.imp_of_mem fun {s r} hs _ hsr => ?_
    have := (hin s (hsecond.mem_iff.mp hs)).ordered
    omega
  have hatOnce : applyInTurn (inOrder splices).reverse text =
      text.take a.stop.toNat ++ ['a'] ++ (['b'] ++ text.drop a.stop.toNat) :=
    applyInTurn_of_sublist hplaced
    (hsecond.trans (hperm.trans (List.Perm.swap b a rest)))
    (fun s hs => hin s (hsecond.mem_iff.mp hs)) hdescending hrefills hb ha hstop.symm
  rw [hturn, applyTogether_eq hin hapart, hatOnce, hstop]
  simp

end Splice
end EditorLink
