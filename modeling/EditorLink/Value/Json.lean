import EditorLink.Number.Notation
import EditorLink.Number.Reading
import EditorLink.Text.Pieces
import EditorLink.Text.Quoted
import EditorLink.Value
/-!
# Values as JSON text

Messages are written as JSON. The writer escapes whatever is not printable ASCII;
the reader keeps whole numbers apart from numbers with a point or an exponent.
-/
namespace EditorLink.Json
open EditorLink.Text

/-- The text of a number of JSON; infinities and the missing number have names. -/
def writeFloat (x : Double) : List Char :=
  match Number.parts x with
  | .undefined => "NaN".toList
  | .infinite negative => Number.signed negative "Infinity".toList
  | .finite .. => Number.shortest x

/-- One character inside a JSON string; beyond the basic plane it takes two escapes. -/
def escapeChar (c : Char) : List Char :=
  if c = '"' || c = '\\' then ['\\', c]
  else if c = '\n' then ['\\', 'n']
  else if ' ' ≤ c && c ≤ '~' then [c]
  else if c.toNat < 0x10000 then '\\' :: 'u' :: hexPadded 4 c.toNat
  else
    let n := c.toNat - 0x10000
    '\\' :: 'u' :: hexPadded 4 (0xD800 + n / 0x400) ++
      '\\' :: 'u' :: hexPadded 4 (0xDC00 + n % 0x400)

def writeText (s : List Char) : List Char := '"' :: s.flatMap escapeChar ++ ['"']

/-- The key under which an entry is written. -/
def keyText : Value → List Char
  | .text s => s.toList
  | .null => "null".toList
  | .bool b => if b then "true".toList else "false".toList
  | .int n => (toString n).toList
  | .float x => writeFloat x
  | _ => []

mutual
/-- Writes a value as JSON. -/
def write : Value → List Char
  | .null => "null".toList
  | .bool b => if b then "true".toList else "false".toList
  | .int n => (toString n).toList
  | .float x => writeFloat x
  | .text s => writeText s.toList
  | .list items => '[' :: joinWith [','] (writeItems items) ++ [']']
  | .mapping entries => '\x7b' :: joinWith [','] (writeEntries entries) ++ ['\x7d']
  | .bytes bs => writeText (quotedBytes bs)
  | .other _ shown _ => writeText shown

def writeItems : List Value → List (List Char)
  | [] => []
  | v :: rest => write v :: writeItems rest

def writeEntries : List (Value × Value) → List (List Char)
  | [] => []
  | (k, v) :: rest => (writeText (keyText k) ++ ':' :: write v) :: writeEntries rest
end

def skipSpace (s : List Char) : List Char :=
  s.dropWhile fun c => c = ' ' || c = '\n' || c = '\r' || c = '\t'

/-- The value of four hexadecimal digits and the rest. -/
def readHex4 (s : List Char) : Option (Nat × List Char) :=
  let digit (c : Char) : Option Nat :=
    if c.isDigit then some (c.toNat - 48)
    else if 'a' ≤ c && c ≤ 'f' then some (c.toNat - 87)
    else if 'A' ≤ c && c ≤ 'F' then some (c.toNat - 55)
    else none
  match s with
  | a :: b :: c :: d :: rest => do
    return ((← digit a) * 4096 + (← digit b) * 256 + (← digit c) * 16 + (← digit d), rest)
  | _ => none

/-- The character that a backslash and a letter stand for. -/
def simpleEscape? (c : Char) : Option Char :=
  match c with
  | '"' => some '"'
  | '\\' => some '\\'
  | '/' => some '/'
  | 'b' => some '\x08'
  | 'f' => some '\x0c'
  | 'n' => some '\n'
  | 'r' => some '\r'
  | 't' => some '\t'
  | _ => none

/-- Reads an escaped character after its backslash; two escapes may form one character. -/
def readEscape (s : List Char) : Option (Char × List Char) :=
  match s with
  | 'u' :: rest =>
    (readHex4 rest).bind fun (high, rest) =>
      match rest with
      | '\\' :: 'u' :: more =>
        match readHex4 more with
        | some (low, after) =>
          if 0xD800 ≤ high && high < 0xDC00 && 0xDC00 ≤ low && low < 0xE000 then
            some (Char.ofNat (0x10000 + (high - 0xD800) * 0x400 + (low - 0xDC00)), after)
          else some (Char.ofNat high, rest)
        | none => some (Char.ofNat high, rest)
      | _ => some (Char.ofNat high, rest)
  | c :: rest => (simpleEscape? c).map (·, rest)
  | [] => none

/-- Reads the characters of a string up to its closing quote. -/
def readString : Nat → List Char → List Char → Option (List Char × List Char)
  | 0, _, _ => none
  | fuel + 1, seen, s =>
    match s with
    | [] => none
    | '"' :: rest => some (seen.reverse, rest)
    | '\\' :: rest => (readEscape rest).bind fun (c, rest) => readString fuel (c :: seen) rest
    | c :: rest => readString fuel (c :: seen) rest

/-- Reads a number; one without a point and an exponent is whole. -/
def readNumber (s : List Char) : Option (Value × List Char) :=
  let part (c : Char) : Bool := c.isDigit || c = '-' || c = '+' || c = '.' || c = 'e' || c = 'E'
  let token := s.takeWhile part
  let rest := s.dropWhile part
  let (negative, magnitude) := Number.splitSign token
  if magnitude ≠ [] && magnitude.all Char.isDigit then
    let n : Int := Number.digitsValue magnitude
    some (.int (if negative then -n else n), rest)
  else (Number.readFloat? token).map fun x => (.float x, rest)

/-- Whether a text begins with a word, and what follows it. -/
def afterWord (word : String) (s : List Char) : Option (List Char) :=
  if word.toList.isPrefixOf s then some (s.drop word.length) else none

/-- Adds an entry; a later value for the same text key replaces the earlier one. -/
def insertEntry (key : String) (v : Value) : List (Value × Value) → List (Value × Value)
  | [] => [(.text key, v)]
  | (k, old) :: rest =>
    match k with
    | .text name => if name = key then (k, v) :: rest else (k, old) :: insertEntry key v rest
    | _ => (k, old) :: insertEntry key v rest

mutual
/-- Reads one value; the fuel bounds the number of nested calls. -/
def readValue : Nat → List Char → Option (Value × List Char)
  | 0, _ => none
  | fuel + 1, s =>
    match skipSpace s with
    | [] => none
    | '"' :: rest =>
      (readString fuel [] rest).map fun (t, r) => (.text (String.ofList t), r)
    | '[' :: rest =>
      match skipSpace rest with
      | ']' :: r => some (.list [], r)
      | r => (readItems fuel [] r).map fun (items, r) => (.list items, r)
    | '\x7b' :: rest =>
      match skipSpace rest with
      | '\x7d' :: r => some (.mapping [], r)
      | r => (readEntries fuel [] r).map fun (entries, r) => (.mapping entries, r)
    | s =>
      match afterWord "null" s with
      | some r => some (.null, r)
      | none => match afterWord "true" s with
        | some r => some (.bool true, r)
        | none => match afterWord "false" s with
          | some r => some (.bool false, r)
          | none => match afterWord "Infinity" s with
            | some r => some (.float .infinity, r)
            | none => match afterWord "-Infinity" s with
              | some r => some (.float (-.infinity), r)
              | none => match afterWord "NaN" s with
                | some r => some (.float .undefined, r)
                | none => readNumber s

/-- Reads the items of a list up to its closing bracket; those already read come in reverse. -/
def readItems : Nat → List Value → List Char → Option (List Value × List Char)
  | 0, _, _ => none
  | fuel + 1, seen, s =>
    (readValue fuel s).bind fun (v, r) =>
      match skipSpace r with
      | ',' :: r => readItems fuel (v :: seen) r
      | ']' :: r => some ((v :: seen).reverse, r)
      | _ => none

/-- Reads the entries of a mapping up to its closing bracket. -/
def readEntries : Nat → List (Value × Value) → List Char →
    Option (List (Value × Value) × List Char)
  | 0, _, _ => none
  | fuel + 1, seen, s =>
    match skipSpace s with
    | '"' :: rest =>
      (readString fuel [] rest).bind fun (key, r) =>
        match skipSpace r with
        | ':' :: r =>
          (readValue fuel r).bind fun (v, r) =>
            let seen := insertEntry (String.ofList key) v seen
            match skipSpace r with
            | ',' :: r => readEntries fuel seen r
            | '\x7d' :: r => some (seen, r)
            | _ => none
        | _ => none
    | _ => none
end

def read? (s : List Char) : Option Value :=
  match readValue (2 * s.length + 2) s with
  | some (v, rest) => if skipSpace rest = [] then some v else none
  | none => none

end EditorLink.Json
