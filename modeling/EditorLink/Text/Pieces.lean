/-!
# Cutting and joining text

A text is a list of characters, so that an offset is a list index. Cutting at
separators keeps every piece, the empty ones too, and joining the lines with
newlines undoes the cut.
-/
namespace EditorLink.Text

/-- The pieces between the characters on which `cut` holds; there is always at least one. -/
def pieces (cut : Char → Bool) : List Char → List (List Char)
  | [] => [[]]
  | c :: rest =>
    if cut c then [] :: pieces cut rest
    else match pieces cut rest with
      | [] => [[c]]
      | piece :: more => (c :: piece) :: more

@[simp] theorem pieces_ne_nil (cut : Char → Bool) (s : List Char) : pieces cut s ≠ [] := by
  cases s with
  | nil => simp [pieces]
  | cons c rest =>
    rw [pieces]
    split
    · simp
    · split <;> simp

/-- The lines of a text; the newlines themselves are dropped. -/
def splitLines (s : List Char) : List (List Char) := pieces (· = '\n') s

/-- Texts one after another with a separator between them. -/
def joinWith (separator : List Char) : List (List Char) → List Char
  | [] => []
  | [piece] => piece
  | piece :: rest => piece ++ separator ++ joinWith separator rest

theorem joinWith_cons {separator piece : List Char} {rest : List (List Char)} (h : rest ≠ []) :
    joinWith separator (piece :: rest) = piece ++ separator ++ joinWith separator rest := by
  obtain ⟨next, more, rfl⟩ := List.exists_cons_of_ne_nil h
  rfl

def joinLines (lines : List (List Char)) : List Char := joinWith ['\n'] lines

/-- Cutting at newlines and joining again changes nothing. -/
theorem joinLines_splitLines (s : List Char) : joinLines (splitLines s) = s := by
  induction s with
  | nil => rfl
  | cons c rest ih =>
    unfold splitLines joinLines at ih ⊢
    rw [pieces]
    cases h : pieces (fun x => decide (x = '\n')) rest with
    | nil => exact absurd h (pieces_ne_nil _ _)
    | cons piece more =>
      rw [h] at ih
      by_cases hc : c = '\n'
      · simp [hc, joinWith, ih]
      · cases more with
        | nil => simp_all [joinWith]
        | cons next more => simp_all [joinWith]

/-- A carriage return before a newline is dropped; one that stands alone stays. -/
def unixNewlines : List Char → List Char
  | [] => []
  | '\r' :: '\n' :: rest => '\n' :: unixNewlines rest
  | c :: rest => c :: unixNewlines rest

/-- Both a carriage return with a newline and one alone become a newline. -/
def universalNewlines : List Char → List Char
  | [] => []
  | '\r' :: '\n' :: rest => '\n' :: universalNewlines rest
  | c :: rest => (if c = '\r' then '\n' else c) :: universalNewlines rest

/-- How many characters stand before the first occurrence of a fragment. -/
def indexOf? (fragment : List Char) : List Char → Option Nat
  | [] => if fragment = [] then some 0 else none
  | c :: rest =>
    if fragment.isPrefixOf (c :: rest) then some 0 else (indexOf? fragment rest).map (· + 1)

/-- Where a text of the given length is cut: negative positions count from its end,
and positions outside the text are moved to its nearer end. -/
def cutIndex (length : Nat) (position : Int) : Nat :=
  if position < 0 then (length + position).toNat else min position.toNat length

def cut (s : List Char) (start stop : Int) : List Char :=
  (s.take (cutIndex s.length stop)).drop (cutIndex s.length start)

end EditorLink.Text
