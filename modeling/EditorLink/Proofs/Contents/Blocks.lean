import EditorLink.Contents.Fence
import Mathlib.Tactic.Common

/-!
# Which blocks are dropped

A Markdown text is written line by line: lines of prose without backticks, and fenced blocks.
Whoever drops the empty blocks of such a text meets three backticks and cannot tell whether they
open a block or close one. The closing line of a block and the opening line of the next one, with
nothing but blank lines between them, look like an empty block, and they are taken for one if the
first block is not empty itself. A text in which no block follows another in this way loses its
empty blocks and nothing else.
-/
namespace EditorLink.Fence
open Character

/-- One line without backticks. -/
structure PlainLine where
  text : List Char
  isPlain : ∀ c ∈ text, c ≠ '\n' ∧ c ≠ '\x60'

def PlainLine.empty : PlainLine := ⟨[], by simp⟩

/-- A part of a Markdown text. -/
inductive Part where
  | prose (line : PlainLine)
  /-- Three backticks and a tag, some lines, and three backticks. -/
  | block (tag : PlainLine) (body : List PlainLine)

/-- The lines of a block, each with the newline that ends it. -/
def bodyText (body : List PlainLine) : List Char := body.flatMap fun l => l.text ++ ['\n']

namespace Part

def text : Part → List Char
  | prose line => line.text
  | block tag body => marker ++ tag.text ++ '\n' :: bodyText body ++ marker

/-- A block that holds nothing but white space. -/
def isEmptyBlock : Part → Bool
  | prose _ => false
  | block _ body => (bodyText body).all isBlank

/-- A block that holds something to see. -/
def isFullBlock : Part → Bool
  | prose _ => false
  | block _ body => !(bodyText body).all isBlank

end Part

/-- The newline that ends a part which is not the last one. -/
def ending (rest : List Part) : List Char := if rest.isEmpty then [] else ['\n']

/-- The parts of a text that are kept, each with the newline that ends it. -/
def write (keeps : Part → Bool) : List Part → List Char
  | [] => []
  | p :: rest => (if keeps p then p.text ++ ending rest else []) ++ write keeps rest

/-- A Markdown text, line by line. -/
def text (parts : List Part) : List Char := write (fun _ => true) parts

/-- A text without its empty blocks and the newlines that end them. -/
def textWithoutEmpty (parts : List Part) : List Char := write (fun p => !p.isEmptyBlock) parts

/-- The block that is reached over blank lines alone, and what follows it. -/
def reached? : List Part → Option ((PlainLine × List PlainLine) × List Part)
  | [] => none
  | .block tag body :: rest => some ((tag, body), rest)
  | .prose line :: rest => if line.text.all isBlank then reached? rest else none

/-- After a closing line no block is reached over blank lines alone. A block of two bare lines
that follows directly does no harm unless it ends the text, since it looks like two closing
lines. -/
def Parted : List Part → Prop
  | [] => True
  | .block tag body :: rest => tag.text = [] ∧ body = [] ∧ rest ≠ [] ∧ Parted rest
  | .prose line :: rest => reached? (.prose line :: rest) = none

/-- Each block that holds something is parted from the blocks below it. -/
def Apart : List Part → Prop
  | [] => True
  | p :: rest => (p.isFullBlock = true → Parted rest) ∧ Apart rest

/-! ## Three backticks -/

theorem afterMarker?_eq_some {s rest : List Char} :
    afterMarker? s = some rest ↔ s = marker ++ rest := by
  unfold afterMarker?
  split
  · simp [marker, eq_comm]
  · rename_i hno
    constructor
    · rintro ⟨⟩
    · rintro rfl
      exact absurd rfl (hno rest)

/-- Fewer than three characters before something that is no backtick are no marker. -/
theorem afterMarker?_eq_none {u s : List Char} (hu : u.length < 3) (hs : s.head? ≠ some '\x60') :
    afterMarker? (u ++ s) = none := by
  by_contra h
  obtain ⟨rest, hrest⟩ := Option.ne_none_iff_exists'.mp h
  have heq := afterMarker?_eq_some.mp hrest
  have hat : (u ++ s)[u.length]? = s.head? := by
    rw [List.getElem?_append_right (Nat.le_refl _), Nat.sub_self, List.head?_eq_getElem?]
  have hmarker : (marker ++ rest)[u.length]? = some '\x60' := by
    match u.length, hu with
    | 0, _ | 1, _ | 2, _ => rfl
  exact hs (by rw [← hat, heq, hmarker])

theorem afterEmptyBlock?_eq_none {s : List Char} (h : afterMarker? s = none) :
    afterEmptyBlock? s = none := by
  rw [afterEmptyBlock?, h]
  rfl

/-- What follows three backticks and the rest of their line. -/
theorem afterEmptyBlock?_marker (tag : PlainLine) (s : List Char) :
    afterEmptyBlock? (marker ++ (tag.text ++ '\n' :: s)) =
      (afterMarker? (s.dropWhile isBlank)).map dropNewline := by
  have hline : (tag.text ++ '\n' :: s).dropWhile (fun c => c ≠ '\n' && c ≠ '\x60') = '\n' :: s := by
    rw [List.dropWhile_append_of_pos (by simpa using tag.isPlain)]
    rfl
  rw [afterEmptyBlock?, afterMarker?_eq_some.mpr rfl, Option.bind_some, hline]
  rfl

theorem dropEmptyBlocks_of_some {s after : List Char} (h : afterEmptyBlock? s = some after) :
    dropEmptyBlocks s = dropEmptyBlocks after := by
  cases s with
  | nil => cases h
  | cons c rest =>
    rw [dropEmptyBlocks]
    split
    · rename_i a ha
      cases h.symm.trans ha
      rfl
    · rename_i hn
      cases h.symm.trans hn

theorem dropEmptyBlocks_cons {c : Char} {rest : List Char}
    (h : afterEmptyBlock? (c :: rest) = none) :
    dropEmptyBlocks (c :: rest) = c :: dropEmptyBlocks rest := by
  rw [dropEmptyBlocks]
  split
  · rename_i a ha
    cases h.symm.trans ha
  · rfl

/-- No block begins where there are no backticks. -/
theorem dropEmptyBlocks_append {u : List Char} (h : '\x60' ∉ u) (s : List Char) :
    dropEmptyBlocks (u ++ s) = u ++ dropEmptyBlocks s := by
  induction u with
  | nil => rfl
  | cons c rest ih =>
    simp only [List.mem_cons, not_or] at h
    have hnone : afterMarker? ([] ++ c :: (rest ++ s)) = none :=
      afterMarker?_eq_none (by decide) (by simpa using Ne.symm h.1)
    rw [List.cons_append, dropEmptyBlocks_cons (afterEmptyBlock?_eq_none hnone), ih h.2,
      List.cons_append]

/-- Three backticks that begin no empty block stay. -/
theorem dropEmptyBlocks_marker {s : List Char} (hs : s.head? ≠ some '\x60')
    (h : afterEmptyBlock? (marker ++ s) = none) :
    dropEmptyBlocks (marker ++ s) = marker ++ dropEmptyBlocks s := by
  have hsecond := afterEmptyBlock?_eq_none
    (afterMarker?_eq_none (u := ['\x60', '\x60']) (by decide) hs)
  have hthird := afterEmptyBlock?_eq_none (afterMarker?_eq_none (u := ['\x60']) (by decide) hs)
  exact (dropEmptyBlocks_cons h).trans (congrArg _ ((dropEmptyBlocks_cons hsecond).trans
    (congrArg _ (dropEmptyBlocks_cons hthird))))

/-! ## Parts of a text -/

theorem not_mem_line (line : PlainLine) : '\x60' ∉ line.text := fun h => (line.isPlain _ h).2 rfl

theorem not_mem_bodyText (body : List PlainLine) : '\x60' ∉ bodyText body := by
  simp [bodyText, not_mem_line]

theorem not_mem_ending (rest : List Part) : '\x60' ∉ ending rest := by
  unfold ending
  split <;> simp

theorem isBlank_of_blank_line {line : PlainLine} (h : line.text.all isBlank = true)
    (rest : List Part) : ∀ c ∈ line.text ++ ending rest, isBlank c = true := by
  have hending : (ending rest).all isBlank = true := by
    unfold ending
    split <;> decide
  rw [← List.all_eq_true, List.all_append, h, hending]
  rfl

@[simp] theorem ending_nil : ending [] = [] := rfl

@[simp] theorem ending_cons (p : Part) (rest : List Part) : ending (p :: rest) = ['\n'] := rfl

theorem dropEmptyBlocks_nil : dropEmptyBlocks (text []) = [] := by
  rw [text, write, dropEmptyBlocks]

@[simp] theorem text_cons (p : Part) (rest : List Part) :
    text (p :: rest) = p.text ++ ending rest ++ text rest := rfl

/-- The newline that ends a part belongs to it, also where the part is dropped. -/
theorem dropNewline_ending (rest : List Part) :
    dropNewline (ending rest ++ text rest) = text rest := by
  cases rest <;> rfl

theorem text_block (tag : PlainLine) (body : List PlainLine) (s : List Char) :
    (Part.block tag body).text ++ s =
      marker ++ (tag.text ++ '\n' :: (bodyText body ++ (marker ++ s))) := by
  simp [Part.text]

theorem textWithoutEmpty_of_empty {p : Part} (h : p.isEmptyBlock = true) (rest : List Part) :
    textWithoutEmpty (p :: rest) = textWithoutEmpty rest := by
  simp [textWithoutEmpty, write, h]

theorem textWithoutEmpty_of_not_empty {p : Part} (h : p.isEmptyBlock = false) (rest : List Part) :
    textWithoutEmpty (p :: rest) = p.text ++ (ending rest ++ textWithoutEmpty rest) := by
  simp [textWithoutEmpty, write, h]

/-- Where nothing but white space stands before three backticks, an empty block ends. -/
theorem afterEmptyBlock?_of_blank (tag : PlainLine) {b : List Char} (hb : b.all isBlank = true)
    (s : List Char) :
    afterEmptyBlock? (marker ++ (tag.text ++ '\n' :: (b ++ (marker ++ s)))) =
      some (dropNewline s) := by
  have hskip : (b ++ (marker ++ s)).dropWhile isBlank = marker ++ s := by
    rw [List.dropWhile_append_of_pos (by simpa using hb)]
    rfl
  rw [afterEmptyBlock?_marker, hskip, afterMarker?_eq_some.mpr rfl]
  rfl

/-- Where something else stands first, there is no empty block. -/
theorem afterMarker?_dropWhile_of_full {b : List Char} (hb : b.all isBlank = false)
    (hplain : '\x60' ∉ b) (s : List Char) :
    afterMarker? ((b ++ s).dropWhile isBlank) = none := by
  induction b with
  | nil => cases hb
  | cons c rest ih =>
    simp only [List.mem_cons, not_or] at hplain
    by_cases hc : isBlank c = true
    · rw [List.cons_append, List.dropWhile_cons_of_pos hc]
      exact ih (by simpa [hc] using hb) hplain.2
    · rw [List.cons_append, List.dropWhile_cons_of_neg hc]
      exact afterMarker?_eq_none (u := []) (by decide) (by simpa using Ne.symm hplain.1)

theorem takeWhile_append_of_full {b : List Char} (hb : b.all isBlank = false) (s : List Char) :
    (b ++ s).takeWhile isBlank = b.takeWhile isBlank := by
  induction b with
  | nil => cases hb
  | cons c rest ih =>
    by_cases hc : isBlank c = true
    · rw [List.cons_append, List.takeWhile_cons_of_pos hc, List.takeWhile_cons_of_pos hc,
        ih (by simpa [hc] using hb)]
    · rw [List.cons_append, List.takeWhile_cons_of_neg hc, List.takeWhile_cons_of_neg hc]

/-! ## Empty blocks and full ones -/

/-- A closing line and all that follows it. -/
def closing (rest : List Part) : List Char := marker ++ (ending rest ++ text rest)

theorem dropEmptyBlocks_prose (line : PlainLine) (rest : List Part) :
    dropEmptyBlocks (text (.prose line :: rest)) =
      line.text ++ (ending rest ++ dropEmptyBlocks (text rest)) := by
  rw [text_cons, Part.text, List.append_assoc, dropEmptyBlocks_append (not_mem_line line),
    dropEmptyBlocks_append (not_mem_ending rest)]

theorem dropEmptyBlocks_empty (tag : PlainLine) {body : List PlainLine}
    (h : (bodyText body).all isBlank = true) (rest : List Part) :
    dropEmptyBlocks (text (.block tag body :: rest)) = dropEmptyBlocks (text rest) := by
  have hafter := afterEmptyBlock?_of_blank tag h (ending rest ++ text rest)
  rw [dropNewline_ending] at hafter
  rw [text_cons, List.append_assoc, text_block, dropEmptyBlocks_of_some hafter]

theorem dropEmptyBlocks_full (tag : PlainLine) {body : List PlainLine}
    (h : (bodyText body).all isBlank = false) (rest : List Part) :
    dropEmptyBlocks (text (.block tag body :: rest)) =
      marker ++ (tag.text ++ '\n' :: (bodyText body ++ dropEmptyBlocks (closing rest))) := by
  have hnone : afterEmptyBlock? (marker ++ (tag.text ++ '\n' :: (bodyText body ++ closing rest))) =
      none := by
    rw [afterEmptyBlock?_marker, afterMarker?_dropWhile_of_full h (not_mem_bodyText body)]
    rfl
  have hhead : (tag.text ++ '\n' :: (bodyText body ++ closing rest)).head? ≠ some '\x60' := by
    cases ht : tag.text with
    | nil => simp
    | cons c more =>
      have hc := (tag.isPlain c (by simp [ht])).2
      simpa using hc
  have hline : '\x60' ∉ tag.text ++ ['\n'] := by simp [not_mem_line]
  have hrest := dropEmptyBlocks_append hline (bodyText body ++ closing rest)
  rw [dropEmptyBlocks_append (not_mem_bodyText body)] at hrest
  rw [text_cons, List.append_assoc, text_block]
  refine (dropEmptyBlocks_marker hhead hnone).trans (congrArg _ ?_)
  simpa using hrest

/-! ## A block that is reached from a closing line -/

/-- What is left of a block whose opening line is dropped. -/
def remains (tag : PlainLine) (body : List PlainLine) : List Char :=
  dropNewline (tag.text ++ '\n' :: bodyText body)

theorem remains_of_no_tag {tag : PlainLine} (h : tag.text = []) (body : List PlainLine) :
    remains tag body = bodyText body := by
  rw [remains, h]
  rfl

theorem dropNewline_tag {tag : PlainLine} (h : tag.text ≠ []) (s : List Char) :
    dropNewline (tag.text ++ s) = tag.text ++ s := by
  obtain ⟨c, line, ht⟩ := List.exists_cons_of_ne_nil h
  have hc := (tag.isPlain c (by simp [ht])).1
  rw [ht, List.cons_append, dropNewline]
  rintro more heq
  exact hc (List.cons.inj heq).1

theorem remains_append (tag : PlainLine) (body : List PlainLine) (s : List Char) :
    dropNewline (tag.text ++ '\n' :: (bodyText body ++ s)) = remains tag body ++ s := by
  by_cases h : tag.text = []
  · rw [remains_of_no_tag h, h]
    rfl
  · rw [remains, dropNewline_tag h, dropNewline_tag h, List.append_assoc, List.cons_append]

theorem remains_eq_nil {tag : PlainLine} {body : List PlainLine} :
    remains tag body = [] ↔ tag.text = [] ∧ body = [] := by
  by_cases h : tag.text = []
  · rw [remains_of_no_tag h]
    cases body <;> simp [bodyText, h]
  · rw [remains, dropNewline_tag h]
    simp [h]

theorem not_mem_remains (tag : PlainLine) (body : List PlainLine) : '\x60' ∉ remains tag body := by
  by_cases h : tag.text = []
  · rw [remains_of_no_tag h]
    exact not_mem_bodyText body
  · rw [remains, dropNewline_tag h]
    simp [not_mem_line, not_mem_bodyText]

/-- What is left of a block with a tag or lines does not look like a closing line. -/
theorem remains_append_ne {tag : PlainLine} {body : List PlainLine} (h : remains tag body ≠ [])
    (s t : List Char) : remains tag body ++ s ≠ marker ++ t := by
  obtain ⟨c, more, hr⟩ := List.exists_cons_of_ne_nil h
  intro heq
  rw [hr] at heq
  have hc : c = '\x60' := (List.cons.inj heq).1
  exact not_mem_remains tag body (by simp [hr, hc])

theorem text_of_reached {rest more : List Part} {tag : PlainLine} {body : List PlainLine}
    (h : reached? rest = some ((tag, body), more)) :
    ∃ gap : List Char, gap.all isBlank = true ∧ ending rest ++ text rest =
      '\n' :: (gap ++ (marker ++ (tag.text ++ '\n' :: (bodyText body ++ closing more)))) := by
  induction rest with
  | nil => cases h
  | cons p rest ih =>
    cases p with
    | block tag' body' =>
      cases h
      refine ⟨[], rfl, ?_⟩
      simp [Part.text, closing]
    | prose line =>
      rw [reached?] at h
      split at h
      · rename_i hblank
        obtain ⟨gap, hgap, htext⟩ := ih h
        refine ⟨line.text ++ '\n' :: gap, ?_, ?_⟩
        · have hn : isBlank '\n' = true := by decide
          rw [List.all_append, List.all_cons, hblank, hn, hgap]
          rfl
        · rw [text_cons, List.append_assoc, htext]
          simp [Part.text]
      · cases h

/-- A block that is reached over blank lines loses its opening line, together with the closing
line before it. -/
theorem dropEmptyBlocks_closing_of_reached {rest more : List Part} {tag : PlainLine}
    {body : List PlainLine} (h : reached? rest = some ((tag, body), more)) :
    dropEmptyBlocks (closing rest) = remains tag body ++ dropEmptyBlocks (closing more) := by
  obtain ⟨gap, hgap, htext⟩ := text_of_reached h
  have hafter := afterEmptyBlock?_of_blank .empty hgap
    (tag.text ++ '\n' :: (bodyText body ++ closing more))
  rw [closing, htext]
  exact (dropEmptyBlocks_of_some hafter).trans
    (by rw [remains_append, dropEmptyBlocks_append (not_mem_remains tag body)])

theorem afterMarker?_of_unreached {rest : List Part} (h : reached? rest = none) :
    afterMarker? ((text rest).dropWhile isBlank) = none := by
  induction rest with
  | nil => rfl
  | cons p rest ih =>
    cases p with
    | block => cases h
    | prose line =>
      rw [text_cons, Part.text, List.append_assoc]
      by_cases hblank : line.text.all isBlank = true
      · rw [← List.append_assoc, List.dropWhile_append_of_pos (isBlank_of_blank_line hblank rest)]
        rw [reached?, if_pos hblank] at h
        exact ih h
      · exact afterMarker?_dropWhile_of_full (by simpa using hblank) (not_mem_line line) _

/-- A closing line after which no block is reached over blank lines is kept. -/
theorem dropEmptyBlocks_closing_of_unreached {rest : List Part} (h : reached? rest = none) :
    dropEmptyBlocks (closing rest) =
      marker ++ (ending rest ++ dropEmptyBlocks (text rest)) := by
  cases rest with
  | nil => exact dropEmptyBlocks_marker (by decide) rfl
  | cons p more =>
    have hnone := afterEmptyBlock?_marker .empty (text (p :: more))
    rw [afterMarker?_of_unreached h] at hnone
    exact (dropEmptyBlocks_marker (by simp [PlainLine.empty]) hnone).trans
      (congrArg _ (dropEmptyBlocks_append (not_mem_ending (p :: more)) _))

/-! ## What is left -/

/-- Both texts begin with the same white space if no block is reached over it. -/
theorem takeWhile_of_unreached {rest : List Part} (h : reached? rest = none) :
    (dropEmptyBlocks (text rest)).takeWhile isBlank =
      (textWithoutEmpty rest).takeWhile isBlank := by
  induction rest with
  | nil => rw [dropEmptyBlocks_nil]; rfl
  | cons p rest ih =>
    cases p with
    | block => cases h
    | prose line =>
      rw [dropEmptyBlocks_prose, textWithoutEmpty_of_not_empty rfl, Part.text]
      rw [reached?] at h
      split at h
      · rename_i hblank
        have hbefore := isBlank_of_blank_line hblank rest
        rw [← List.append_assoc, ← List.append_assoc, List.takeWhile_append_of_pos hbefore,
          List.takeWhile_append_of_pos hbefore, ih h]
      · rename_i hfull
        have hline : line.text.all isBlank = false := by simpa using hfull
        rw [takeWhile_append_of_full hline, takeWhile_append_of_full hline]

theorem ne_nil_of_reached {rest : List Part} {found : (PlainLine × List PlainLine) × List Part}
    (h : reached? rest = some found) : rest ≠ [] := by
  rintro rfl
  cases h

/-- What comes of a closing line and of the text behind it. The closing line is kept exactly if
it is parted from the blocks below; otherwise no white space that is put behind it makes up for
what is lost. -/
structure Kept (parts : List Part) : Prop where
  closing : ∀ gap : List Char, gap.all isBlank = true →
    (dropEmptyBlocks (Fence.closing parts) = marker ++ '\n' :: (gap ++ textWithoutEmpty parts) ↔
      gap = [] ∧ parts ≠ [] ∧ Parted parts ∧ Apart parts)
  text : dropEmptyBlocks (Fence.text parts) = textWithoutEmpty parts ↔ Apart parts

theorem dropEmptyBlocks_closing_nil : dropEmptyBlocks (Fence.closing []) = marker := by
  have hsame : dropEmptyBlocks (Fence.closing []) =
      marker ++ (ending [] ++ dropEmptyBlocks (Fence.text [])) :=
    dropEmptyBlocks_closing_of_unreached rfl
  rw [hsame, dropEmptyBlocks_nil]
  rfl

theorem kept_nil : Kept [] where
  closing gap _ := by
    rw [dropEmptyBlocks_closing_nil]
    simp
  text := by
    rw [dropEmptyBlocks_nil]
    simp [textWithoutEmpty, write, Apart]

theorem Kept.prose {rest : List Part} (h : Kept rest) (line : PlainLine) :
    Kept (.prose line :: rest) := by
  have hmeans : textWithoutEmpty (.prose line :: rest) =
      line.text ++ (ending rest ++ textWithoutEmpty rest) := textWithoutEmpty_of_not_empty rfl rest
  have htext : dropEmptyBlocks (Fence.text (.prose line :: rest)) =
      textWithoutEmpty (.prose line :: rest) ↔ Apart (.prose line :: rest) := by
    rw [dropEmptyBlocks_prose, hmeans]
    simp [h.text, Apart, Part.isFullBlock]
  refine ⟨fun gap hgap => ?_, htext⟩
  cases hr : reached? (.prose line :: rest) with
  | none =>
    have hgap_nil (heq : dropEmptyBlocks (Fence.text (.prose line :: rest)) =
        gap ++ textWithoutEmpty (.prose line :: rest)) : gap = [] := by
      have hblank := takeWhile_of_unreached hr
      rw [heq, List.takeWhile_append_of_pos (by simpa using hgap)] at hblank
      simpa using hblank
    have hsame : dropEmptyBlocks (Fence.closing (.prose line :: rest)) =
        marker ++ '\n' :: dropEmptyBlocks (Fence.text (.prose line :: rest)) :=
      dropEmptyBlocks_closing_of_unreached hr
    rw [hsame]
    simp only [List.append_cancel_left_eq, List.cons.injEq, true_and, Parted, hr, ne_eq,
      reduceCtorEq, not_false_eq_true]
    constructor
    · intro heq
      obtain rfl := hgap_nil heq
      exact ⟨rfl, htext.mp heq⟩
    · rintro ⟨rfl, hapart⟩
      exact htext.mpr hapart
  | some found =>
    -- the line is blank and goes away with the lines around it, so it cannot stand in the result
    have hline : line.text.all isBlank = true ∧ reached? rest = some found := by
      rw [reached?] at hr
      split at hr
      · exact ⟨‹_›, hr⟩
      · cases hr
    obtain ⟨⟨tag, body⟩, more⟩ := found
    have hending : ending rest = ['\n'] := by
      simp [ending, ne_nil_of_reached hline.2]
    have hsame : dropEmptyBlocks (Fence.closing (.prose line :: rest)) =
        dropEmptyBlocks (Fence.closing rest) :=
      (dropEmptyBlocks_closing_of_reached hr).trans
        (dropEmptyBlocks_closing_of_reached hline.2).symm
    have hwide := h.closing (gap ++ (line.text ++ ['\n']))
      (by rw [List.all_append, List.all_append, hgap, hline.1]; decide)
    rw [hsame, hmeans, hending]
    simp only [List.append_assoc] at hwide
    rw [hwide]
    simp [Parted, hr]

theorem Kept.block {rest : List Part} (h : Kept rest) (tag : PlainLine) (body : List PlainLine) :
    Kept (.block tag body :: rest) := by
  refine ⟨fun gap hgap => ?_, ?_⟩
  · rw [dropEmptyBlocks_closing_of_reached rfl]
    by_cases hbare : tag.text = [] ∧ body = []
    · have hempty : (Part.block tag body).isEmptyBlock = true := by
        simp [Part.isEmptyBlock, bodyText, hbare.2]
      rw [remains_eq_nil.mpr hbare, List.nil_append, textWithoutEmpty_of_empty hempty,
        h.closing gap hgap]
      have hfull : (Part.block tag []).isFullBlock = false := rfl
      simp [Parted, Apart, hbare, hfull, and_assoc]
    · have hne := remains_append_ne (mt remains_eq_nil.mp hbare)
        (dropEmptyBlocks (Fence.closing rest))
        ('\n' :: (gap ++ textWithoutEmpty (.block tag body :: rest)))
      simp only [hne, false_iff]
      rintro ⟨-, -, ⟨ht, hb, -⟩, -⟩
      exact hbare ⟨ht, hb⟩
  · by_cases hb : (bodyText body).all isBlank = true
    · have hempty : (Part.block tag body).isEmptyBlock = true := hb
      rw [dropEmptyBlocks_empty tag hb, textWithoutEmpty_of_empty hempty, h.text]
      simp [Apart, Part.isFullBlock, hb]
    · have hbody : (bodyText body).all isBlank = false := by simpa using hb
      have hempty : (Part.block tag body).isEmptyBlock = false := hbody
      have hfull : (Part.block tag body).isFullBlock = true := by simp [Part.isFullBlock, hbody]
      rw [dropEmptyBlocks_full tag hbody, textWithoutEmpty_of_not_empty hempty, text_block]
      simp only [List.append_cancel_left_eq, List.cons.injEq, true_and, Apart, hfull, forall_const]
      cases rest with
      | nil =>
        rw [dropEmptyBlocks_closing_nil]
        simp [textWithoutEmpty, write, Parted, Apart]
      | cons p more => simpa using h.closing [] rfl

theorem kept (parts : List Part) : Kept parts := by
  induction parts with
  | nil => exact kept_nil
  | cons p rest ih =>
    cases p with
    | prose line => exact ih.prose line
    | block tag body => exact ih.block tag body

/-- Exactly the empty blocks of a text are dropped, with the newlines that end them, if and only
if each full block is parted from the blocks below it. -/
theorem dropEmptyBlocks_text_iff (parts : List Part) :
    dropEmptyBlocks (text parts) = textWithoutEmpty parts ↔ Apart parts :=
  (kept parts).text

/-- Two full blocks with a blank line between them. -/
def twoBlocks : List Part :=
  [.block .empty [⟨['a'], by simp⟩], .prose .empty, .block .empty [⟨['b'], by simp⟩]]

theorem dropEmptyBlocks_twoBlocks :
    textWithoutEmpty twoBlocks = text twoBlocks ∧
      text twoBlocks = "```\na\n```\n\n```\nb\n```".toList ∧
      dropEmptyBlocks (text twoBlocks) = "```\na\nb\n```".toList := by
  refine ⟨?_, ?_, ?_⟩
  · decide
  · decide
  · cbv

end EditorLink.Fence
