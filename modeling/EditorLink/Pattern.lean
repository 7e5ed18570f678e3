import EditorLink.Pattern.CharSet
/-!
# Patterns of text

A pattern describes pieces of a text. Alternatives are tried from left to right
and repetitions take as much as they can, or as little if they are reluctant, so
each place of a text has one preferred match. A search takes the leftmost place
that has one.

A group remembers the piece that it took last, and a pattern may ask for that piece
again. Some parts of a pattern are settled once they match: what they found is not
reconsidered when a later part fails.
-/
namespace EditorLink
open Character

/-- A place that a pattern can ask for. -/
inductive Anchor where
  | textStart
  | lineStart
  | textEnd
  /-- The end of the text, or the place before a newline that ends it. -/
  | lastLineEnd
  | lineEnd
  /-- A place between a word character and something else, or any other place. -/
  | wordEdge (isPlain negated : Bool)
deriving DecidableEq

/-- How much a repetition takes. -/
inductive Appetite where
  /-- As much as it can. -/
  | eager
  /-- As little as it can. -/
  | reluctant
  /-- As much as it can, once and for all. -/
  | possessive
deriving DecidableEq

/-- A description of pieces of text. -/
inductive Pattern where
  /-- The empty piece. -/
  | empty
  /-- One character of a set. -/
  | one (set : CharSet)
  /-- Two pieces in a row. -/
  | seq (first second : Pattern)
  /-- A piece of the first kind, or else of the second. -/
  | alt (first second : Pattern)
  /-- Between `least` and `most` pieces in a row. -/
  | times (body : Pattern) (least : Nat) (most : Option Nat) (appetite : Appetite)
  /-- The empty piece at a place. -/
  | place (a : Anchor)
  /-- A piece that a group remembers. -/
  | group (index : Nat) (body : Pattern)
  /-- The piece that a group took last. -/
  | again (index : Nat) (rule : CaseRule)
  /-- A piece of the first kind if a group took a piece, and else of the second. -/
  | given (index : Nat) (yes no : Pattern)
  /-- The empty piece where a piece starts, or where none starts. -/
  | ahead (body : Pattern) (negated : Bool)
  /-- The empty piece where a piece of a width ends, or where none ends. -/
  | behind (body : Pattern) (width : Nat) (negated : Bool)
  /-- A piece that is settled once it is found. -/
  | settled (body : Pattern)
deriving DecidableEq

/-- A place in a text: how many characters stand before it, those characters, nearest
first, and those behind it; and the pieces that groups took on the way. -/
structure Cursor where
  position : Nat
  before : List Char
  rest : List Char
  groups : List (Nat × List Char)
deriving DecidableEq

namespace Cursor

def start (text : List Char) : Cursor := ⟨0, [], text, []⟩

/-- Goes back by some characters. -/
def back (s : Cursor) (width : Nat) : Cursor :=
  { s with
    position := s.position - width
    before := s.before.drop width
    rest := (s.before.take width).reverse ++ s.rest }

/-- Goes on by some characters. -/
def forth (s : Cursor) (width : Nat) : Cursor :=
  { s with
    position := s.position + width
    before := (s.rest.take width).reverse ++ s.before
    rest := s.rest.drop width }

/-- Remembers the piece up to a later place as that of a group. -/
def remember (s t : Cursor) (index : Nat) : Cursor :=
  { t with groups := (index, s.rest.take (t.position - s.position)) :: t.groups }

/-- Whether a place is one that a pattern asks for. A text without characters has no
edge of a word and no other place either. -/
def isAt (s : Cursor) : Anchor → Bool
  | .textStart => s.before = []
  | .lineStart => s.before = [] || s.before.head? = some '\n'
  | .textEnd => s.rest = []
  | .lastLineEnd => s.rest = [] || s.rest = ['\n']
  | .lineEnd => s.rest = [] || s.rest.head? = some '\n'
  | .wordEdge isPlain negated =>
    let isWord := CharKind.word.holds isPlain
    (s.before ≠ [] || s.rest ≠ []) &&
      (s.before.head?.any isWord != s.rest.head?.any isWord) != negated

end Cursor

/-- What a match goes on with, and where it ends if it succeeds. -/
abbrev Goal := Cursor → Option Cursor

namespace Pattern

/-- Matches a body a fixed number of times and goes on. -/
def exactly (body : Cursor → Goal → Option Cursor) : Nat → Cursor → Goal → Option Cursor
  | 0, s, next => next s
  | n + 1, s, next => body s fun t => exactly body n t next

/-- Matches a body up to a number of times and goes on. A round that takes no
character is the last one. -/
def upTo (body : Cursor → Goal → Option Cursor) (isEager : Bool) :
    Nat → Cursor → Goal → Option Cursor
  | 0, s, next => next s
  | n + 1, s, next =>
    let more (_ : Unit) := body s fun t =>
      if s.position < t.position then upTo body isEager n t next else next t
    if isEager then (more ()).orElse fun _ => next s else (next s).orElse more

/-- Matches a body a fixed number of times, each time in the preferred way only. -/
def settledTimes (body : Cursor → Goal → Option Cursor) : Nat → Cursor → Option Cursor
  | 0, s => some s
  | n + 1, s => (body s some).bind (settledTimes body n)

/-- Matches a body as often as possible up to a number of times, each time in the
preferred way only. A round that takes no character is the last one. -/
def settledUpTo (body : Cursor → Goal → Option Cursor) : Nat → Cursor → Cursor
  | 0, s => s
  | n + 1, s =>
    match body s some with
    | none => s
    | some t => if s.position < t.position then settledUpTo body n t else t

/-- How many rounds there may be beyond the least number: one for each character that
is left, and one more that takes none. -/
def roundsBeyond (least : Nat) (most : Option Nat) (s : Cursor) : Nat :=
  match most with
  | none => s.rest.length + 1
  | some m => min (m - least) (s.rest.length + 1)

/-- Matches a body between two numbers of times and goes on. -/
def rounds (body : Cursor → Goal → Option Cursor) (least : Nat) (most : Option Nat) :
    Appetite → Cursor → Goal → Option Cursor
  | .possessive, s, next => (settledTimes body least s).bind fun t =>
      next (settledUpTo body (roundsBeyond least most t) t)
  | appetite, s, next => exactly body least s fun t =>
      upTo body (appetite = .eager) (roundsBeyond least most t) t next

def repeatText (rule : CaseRule) (text : List Char) (s : Cursor) (next : Goal) : Option Cursor :=
  let piece := s.rest.take text.length
  if piece.map rule.fold = text.map rule.fold then next (s.forth text.length) else none

/-- Matches a pattern at a place and goes on from each place where the match can
end, in order of preference, until that succeeds. -/
def run : Pattern → Cursor → Goal → Option Cursor
  | empty, s, next => next s
  | one set, s, next =>
    match s.rest with
    | [] => none
    | c :: rest =>
      if set.holds c then next ⟨s.position + 1, c :: s.before, rest, s.groups⟩ else none
  | seq p q, s, next => run p s fun t => run q t next
  | alt p q, s, next => (run p s next).orElse fun _ => run q s next
  | times p least most appetite, s, next => rounds (run p) least most appetite s next
  | place a, s, next => if s.isAt a then next s else none
  | group index p, s, next => run p s fun t => next (s.remember t index)
  | again index rule, s, next => (s.groups.lookup index).bind fun text => repeatText rule text s next
  | given index yes no, s, next =>
    if (s.groups.lookup index).isSome then run yes s next else run no s next
  | ahead p false, s, next => (run p s some).bind fun t => next { s with groups := t.groups }
  | ahead p true, s, next => if (run p s some).isSome then none else next s
  | behind p width false, s, next =>
    if s.position < width then none
    else (run p (s.back width) some).bind fun t => next { s with groups := t.groups }
  | behind p width true, s, next =>
    if width ≤ s.position && (run p (s.back width) some).isSome then none else next s
  | settled p, s, next => (run p s some).bind next

/-- The first place from a place on with a match, and where that match ends. -/
def searchFrom (p : Pattern) (position : Nat) (before : List Char) :
    List Char → Option (Nat × Nat)
  | [] => (p.run ⟨position, before, [], []⟩ some).map fun t => (position, t.position)
  | c :: rest =>
    match p.run ⟨position, before, c :: rest, []⟩ some with
    | some t => some (position, t.position)
    | none => searchFrom p (position + 1) (c :: before) rest

def search (p : Pattern) (text : List Char) : Option (Nat × Nat) := p.searchFrom 0 [] text

def found (p : Pattern) (text : List Char) : Bool := (p.search text).isSome

def char (c : Char) : Pattern := one (.single c)

def wordRun : Pattern := times (one .words) 1 none .eager

/-- The pieces of a pattern that end where the text ends. -/
def anchored (p : Pattern) : Pattern := seq p (place .lastLineEnd)

end Pattern
end EditorLink
