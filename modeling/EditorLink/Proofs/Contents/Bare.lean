import EditorLink.Contents
import Mathlib.Data.List.Infix

/-!
# Texts with nothing to see

Trimming a text and dropping its empty blocks leaves a part of it. So a text of white space and
backticks alone stays one, whereas a text that has more in it may become one.
-/
namespace EditorLink

theorem Character.sublist_trim (s : List Char) : (Character.trim s).Sublist s := by
  have hinner := (s.dropWhile_sublist Character.isBlank).reverse
  have houter := ((s.dropWhile Character.isBlank).reverse.dropWhile_sublist Character.isBlank).trans
    hinner
  simpa [Character.trim] using houter.reverse

namespace Fence

theorem afterMarker?_suffix {s rest : List Char} (h : afterMarker? s = some rest) : rest <:+ s := by
  unfold afterMarker? at h
  split at h
  · cases h
    exact (List.suffix_cons _ _).trans ((List.suffix_cons _ _).trans (List.suffix_cons _ _))
  · cases h

theorem dropNewline_suffix (s : List Char) : dropNewline s <:+ s := by
  unfold dropNewline
  split
  · exact List.suffix_cons _ _
  · exact List.suffix_refl _

/-- What follows an empty block is the end of a text. -/
theorem afterEmptyBlock?_suffix {s after : List Char} (h : afterEmptyBlock? s = some after) :
    after <:+ s := by
  obtain ⟨inner, hinner, h⟩ := Option.bind_eq_some_iff.mp h
  split at h
  · rename_i body hbody
    obtain ⟨tail, htail, rfl⟩ := Option.map_eq_some_iff.mp h
    have hline : '\n' :: body <:+ inner := hbody ▸ List.dropWhile_suffix _
    calc dropNewline tail <:+ tail := dropNewline_suffix tail
      _ <:+ body.dropWhile Character.isBlank := afterMarker?_suffix htail
      _ <:+ body := List.dropWhile_suffix _
      _ <:+ inner := (List.suffix_cons _ _).trans hline
      _ <:+ s := afterMarker?_suffix hinner
  · cases h

/-- Dropping the empty blocks of a text leaves a part of it. -/
theorem sublist_dropEmptyBlocks (s : List Char) : (dropEmptyBlocks s).Sublist s := by
  fun_induction dropEmptyBlocks s with
  | case1 => exact List.Sublist.slnil
  | case2 c rest after h ih => exact ih.trans (afterEmptyBlock?_suffix h).sublist
  | case3 c rest h ih => exact ih.cons_cons c

end Fence

namespace Contents

theorem isBare_iff {s : List Char} :
    isBare s = true ↔ ∀ x ∈ s, Character.isBlank x = true ∨ x = '\x60' := by
  simp [isBare]

theorem isBare_of_sublist {s t : List Char} (hst : s.Sublist t) (ht : isBare t = true) :
    isBare s = true :=
  List.all_eq_true.mpr fun c hc => List.all_eq_true.mp ht c (hst.subset hc)

/-- Where Markdown is shown as it is, marked-up text with nothing to see in it stays such a text. -/
theorem exists_bare_showMarkup {r : Renderer} (hr : ∀ s, r.apply s = .ok s) (isMarkdown : Bool)
    (s : List Char) :
    ∃ t, showMarkup r isMarkdown s = .ok t ∧ (isBare s = true → isBare t = true) := by
  rw [showMarkup]
  split
  · refine ⟨_, hr _, isBare_of_sublist ?_⟩
    exact (Fence.sublist_dropEmptyBlocks _).trans (Character.sublist_trim s)
  · exact ⟨s, rfl, id⟩

end Contents
end EditorLink
