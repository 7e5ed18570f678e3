import EditorLink.Character.Blank
/-!
# Empty code fences

A fenced block of Markdown that holds nothing but white space shows nothing. It
is dropped together with the newline that ends its closing line.
-/
namespace EditorLink.Fence
open Character

def marker : List Char := ['\x60', '\x60', '\x60']

/-- What follows three backticks, if a text begins with them. -/
def afterMarker? : List Char → Option (List Char)
  | '\x60' :: '\x60' :: '\x60' :: rest => some rest
  | _ => none

def dropNewline : List Char → List Char
  | '\n' :: rest => rest
  | s => s

/-- What follows an empty block, if a text begins with one: three backticks, a tag
without backticks up to the end of the line, white space, three backticks, and
perhaps a newline. -/
def afterEmptyBlock? (s : List Char) : Option (List Char) :=
  (afterMarker? s).bind fun inner =>
    match inner.dropWhile fun c => c ≠ '\n' && c ≠ '\x60' with
    | '\n' :: body => (afterMarker? (body.dropWhile isBlank)).map dropNewline
    | _ => none

theorem afterMarker?_length {s rest : List Char} (h : afterMarker? s = some rest) :
    rest.length + 3 = s.length := by
  unfold afterMarker? at h
  split at h
  · simp only [Option.some.injEq] at h
    simp [← h]
  · simp at h

theorem dropNewline_length (s : List Char) : (dropNewline s).length ≤ s.length := by
  unfold dropNewline
  split <;> simp

theorem length_dropWhile_le (p : Char → Bool) (s : List Char) :
    (s.dropWhile p).length ≤ s.length := (List.dropWhile_sublist p).length_le

theorem afterEmptyBlock?_length {s rest : List Char} (h : afterEmptyBlock? s = some rest) :
    rest.length < s.length := by
  unfold afterEmptyBlock? at h
  cases hm : afterMarker? s with
  | none => simp [hm] at h
  | some inner =>
    have h1 := afterMarker?_length hm
    have h2 := length_dropWhile_le (fun c => c ≠ '\n' && c ≠ '\x60') inner
    simp only [hm, Option.bind_some] at h
    split at h
    · rename_i body hb
      cases hc : afterMarker? (body.dropWhile isBlank) with
      | none => simp [hc] at h
      | some tail =>
        have h3 := afterMarker?_length hc
        have h4 := length_dropWhile_le isBlank body
        have h5 := dropNewline_length tail
        simp only [hc, Option.map_some, Option.some.injEq] at h
        rw [hb] at h2
        simp only [List.length_cons] at h2
        rw [← h]
        omega
    · simp at h

/-- Drops the empty blocks of a text from left to right. -/
def dropEmptyBlocks (s : List Char) : List Char :=
  match s with
  | [] => []
  | c :: rest =>
    match _h : afterEmptyBlock? (c :: rest) with
    | some after => dropEmptyBlocks after
    | none => c :: dropEmptyBlocks rest
termination_by s.length
decreasing_by
  · exact afterEmptyBlock?_length _h
  · simp

end EditorLink.Fence
