import EditorLink.Character.Identifier
import EditorLink.Number.Reading
import EditorLink.Pattern.Width
/-!
# Written patterns

The written form of patterns: literal characters, a dot for any character but a
newline, escapes, character sets in square brackets, alternatives, anchors, groups
in parentheses, and the repetitions `*`, `+`, `?` and counted ones in curly brackets.
An opening curly bracket that begins no count stands for itself. A repetition needs
something to repeat, which is neither an anchor nor itself a repetition.

What stands behind an opening parenthesis and a question mark makes a group special:
it may have a name, switches of its own, or look ahead or behind. Patterns can ask only
for groups that have been closed.
-/
namespace EditorLink.Pattern
open Character Number

/-- Why a text is no pattern. -/
inductive PatternError where
  | malformed
  /-- A count of repetitions that is too large. -/
  | countTooLarge
deriving DecidableEq

/-- A sign of a written pattern. -/
inductive Sign where
  | plain (c : Char)
  /-- A character behind a backslash. -/
  | escaped (c : Char)
  /-- A backslash at the end. -/
  | cut
deriving DecidableEq

/-- The signs of a text. -/
def signs : List Char → List Sign
  | [] => []
  | ['\\'] => [.cut]
  | '\\' :: c :: rest => .escaped c :: signs rest
  | c :: rest => .plain c :: signs rest

/-- What holds for a part of a pattern. -/
structure Switches where
  ignoresCase : Bool
  /-- Whether a line ends at each newline. -/
  seesLines : Bool
  /-- Whether a dot is any character at all. -/
  seesAll : Bool
  /-- Whether blanks and comments do not count. -/
  isSpaced : Bool
  /-- Whether only ASCII characters are words, digits and blanks. -/
  isPlain : Bool
deriving DecidableEq

namespace Switches

def none : Switches := ⟨false, false, false, false, false⟩

def rule (w : Switches) : CaseRule :=
  if !w.ignoresCase then .exact else if w.isPlain then .plain else .caseless

/-- The letters that may be turned on, of which `t` counts for whole patterns only. -/
def letters : List Char := ['a', 'i', 'L', 'm', 's', 'u', 'x', 't']

/-- Turns a letter on or off. -/
def set (w : Switches) (isOn : Bool) : Char → Switches
  | 'i' => { w with ignoresCase := isOn }
  | 'm' => { w with seesLines := isOn }
  | 's' => { w with seesAll := isOn }
  | 'x' => { w with isSpaced := isOn }
  | 'a' => { w with isPlain := true }
  | 'u' => { w with isPlain := false }
  | _ => w

end Switches

/-- What has been found out while a pattern is read. -/
structure Draft where
  /-- The signs that are left. -/
  rest : List Sign
  /-- The widths of the groups so far; an open group has none yet. -/
  groups : List (Option Width)
  /-- The names of groups with their numbers. -/
  names : List (List Char × Nat)
  /-- How many groups there were where the outermost look behind begins that is being read. -/
  fence : Option Nat
  /-- The greatest number of a group on which a part of the pattern depends. -/
  asked : Nat

abbrev Reading := StateT Draft (Except PatternError)

def refuse : Reading α := throw .malformed

/-- What an option holds, or else the text is no pattern. -/
def demand : Option α → Reading α
  | some a => pure a
  | none => refuse

/-- The next sign, which stays. -/
def peek : Reading (Option Sign) := do
  match (← get).rest with
  | [] => return none
  | .cut :: _ => refuse
  | sign :: _ => return some sign

def next : Reading Sign := do
  let sign ← demand (← peek)
  modify fun d => { d with rest := d.rest.drop 1 }
  return sign

/-- Takes a character, if it comes next. -/
def accept (c : Char) : Reading Bool := do
  if (← peek) = some (.plain c) then
    let _ ← next
    return true
  return false

def expect (c : Char) : Reading Unit := do
  if !(← accept c) then refuse

/-- The characters of a row of signs, as long as they are of some kind. -/
def leading (p : Char → Bool) : List Sign → List Char
  | .plain c :: rest => if p c then c :: leading p rest else []
  | _ => []

/-- Takes characters of some kind, at most a number of them. -/
def takeWhile (p : Char → Bool) (most : Nat) : Reading (List Char) := do
  let taken := (leading p (← get).rest).take most
  modify fun d => { d with rest := d.rest.drop taken.length }
  return taken

def Sign.text : Sign → List Char
  | plain c => [c]
  | escaped c => ['\\', c]
  | cut => ['\\']

/-- Takes everything up to a character, and that character too. -/
def takeUntil (stop : Char) : Reading (List Char) := do
  let signs := (← get).rest
  let taken := signs.takeWhile (· ≠ .plain stop)
  if taken.length = signs.length then refuse
  modify fun d => { d with rest := d.rest.drop (taken.length + 1) }
  return taken.flatMap Sign.text

/-! ## Escapes -/

/-- The characters that a letter names behind a backslash, if it names a kind. -/
def kindOf? (isPlain : Bool) (c : Char) : Option CharPart :=
  match c with
  | 'w' => some (.kind .word isPlain false)
  | 'W' => some (.kind .word isPlain true)
  | 'd' => some (.kind .decimal isPlain false)
  | 'D' => some (.kind .decimal isPlain true)
  | 's' => some (.kind .blank isPlain false)
  | 'S' => some (.kind .blank isPlain true)
  | _ => none

/-- The place that a letter names behind a backslash, if it names one. -/
def anchorOf? (isPlain : Bool) (c : Char) : Option Anchor :=
  match c with
  | 'A' => some .textStart
  | 'Z' => some .textEnd
  | 'b' => some (.wordEdge isPlain false)
  | 'B' => some (.wordEdge isPlain true)
  | _ => none

/-- The control character that a letter stands for behind a backslash. -/
def controlOf? (c : Char) : Option Char :=
  [('a', '\x07'), ('f', '\x0c'), ('n', '\n'), ('r', '\r'), ('t', '\t'), ('v', '\x0b')].lookup c

def isOctal (c : Char) : Bool := '0' ≤ c && c ≤ '7'

def numberIn (base : Nat) (digits : List Char) : Nat := valueIn base (digits.filterMap hexValue?)

/-- Takes a code point of a fixed number of hexadecimal digits. -/
def readCode (width : Nat) : Reading Nat := do
  let digits ← takeWhile (fun c => (hexValue? c).isSome) width
  let code := numberIn 16 digits
  if digits.length ≠ width || 0x110000 ≤ code then refuse
  return code

def octalCode (digits : List Char) : Reading Nat := do
  let code := numberIn 8 digits
  if 0o377 < code then refuse
  return code

/-- The code point that a character stands for behind a backslash, if it is no digit.
Letters that stand for nothing are not allowed, other characters stand for themselves. -/
def readEscaped (c : Char) : Reading Nat := do
  match controlOf? c with
  | some control => return control.toNat
  | none =>
    match c with
    | 'x' => readCode 2
    | 'u' => readCode 4
    | 'U' => readCode 8
    | c => if c.isAlphanum then refuse else return c.toNat

/-- A member of a character set that begins with a sign. -/
def readMember (w : Switches) : Sign → Reading CharPart
  | .plain c => return .range c.toNat c.toNat
  | .cut => refuse
  | .escaped c =>
    match kindOf? w.isPlain c with
    | some part => return part
    | none => do
      let code ←
        if c = 'b' then pure 8
        else if isOctal c then do octalCode (c :: (← takeWhile isOctal 2))
        else readEscaped c
      return .range code code

def groupCount : Reading Nat := do return (← get).groups.length

def isClosed (index : Nat) : Reading Bool := do
  return ((← get).groups[index - 1]?.join).isSome

/-- Makes sure that a look behind does not depend on a group inside it, or on an open one. -/
def checkFence (index : Nat) : Reading Unit := do
  match (← get).fence with
  | none => return
  | some count => if !(← isClosed index) || count < index then refuse

def readAgain (w : Switches) (index : Nat) : Reading Pattern := do
  if !(← isClosed index) then refuse
  checkFence index
  return .again index w.rule

/-- The pieces that are one character with a code point. -/
def ofCode (w : Switches) (code : Nat) : Pattern := one ⟨w.rule, [.range code code], false⟩

/-- What digits behind a backslash stand for: a character if they are octal and three of
them, and else a group. -/
def readDigits (w : Switches) (c : Char) : Reading Pattern := do
  if c = '0' then return ofCode w (numberIn 8 (← takeWhile isOctal 2))
  let second ← takeWhile Char.isDigit 1
  let third ← if isOctal c && second.any isOctal then takeWhile isOctal 1 else pure []
  if third ≠ [] then return ofCode w (← octalCode (c :: second ++ third))
  readAgain w (numberIn 10 (c :: second))

/-! ## Sequences -/

/-- A part of a sequence that has been read. -/
structure Item where
  pattern : Pattern
  /-- Whether a repetition may follow. -/
  repeatable : Bool

/-- What a character stands for behind a backslash. -/
def readEscape (w : Switches) (c : Char) : Reading Item := do
  match anchorOf? w.isPlain c, kindOf? w.isPlain c with
  | some anchor, _ => return ⟨place anchor, false⟩
  | none, some part => return ⟨one ⟨w.rule, [part], false⟩, true⟩
  | none, none =>
    if c.isDigit then return ⟨← readDigits w c, true⟩
    else return ⟨ofCode w (← readEscaped c), true⟩

/-- The members of a character set up to its closing bracket, which cannot come first. -/
def readMembers (w : Switches) : Nat → List CharPart → Reading (List CharPart)
  | 0, _ => refuse
  | fuel + 1, parts => do
    let sign ← next
    if sign = .plain ']' && parts ≠ [] then return parts.reverse
    let part ← readMember w sign
    if !(← accept '-') then readMembers w fuel (part :: parts)
    else
      let sign ← next
      if sign = .plain ']' then return (.range '-'.toNat '-'.toNat :: part :: parts).reverse
      match part, ← readMember w sign with
      | .range first _, .range last _ =>
        if last < first then refuse
        readMembers w fuel (.range first last :: parts)
      | _, _ => refuse

/-- Reads a character set behind its opening bracket. -/
def readSet (w : Switches) : Reading Pattern := do
  let negated ← accept '^'
  return one ⟨w.rule, ← readMembers w (← get).rest.length [], negated⟩

/-- A count of repetitions behind an opening curly bracket, with what follows. -/
def countOf? (signs : List Sign) : Option (List Char × List Char × List Sign) :=
  let low := leading Char.isDigit signs
  match signs.drop low.length with
  | .plain ',' :: rest =>
    let high := leading Char.isDigit rest
    match rest.drop high.length with
    | .plain '\x7d' :: after => some (low, high, after)
    | _ => none
  | .plain '\x7d' :: after => if low = [] then none else some (low, low, after)
  | _ => none

/-- The repetition that a character begins, if it begins one. -/
def readRepetition (c : Char) : Reading (Option (Nat × Option Nat)) := do
  match c with
  | '*' => return some (0, none)
  | '+' => return some (1, none)
  | '?' => return some (0, some 1)
  | '\x7b' =>
    match countOf? (← get).rest with
    | none => return none
    | some (low, high, after) =>
      modify fun d => { d with rest := after }
      let least := numberIn 10 low
      let most := if high = [] then none else some (numberIn 10 high)
      if Width.bound ≤ least || most.any (Width.bound ≤ ·) then throw .countTooLarge
      if most.any (· < least) then refuse
      return some (least, most)
  | _ => return none

/-- How much a repetition takes, by the sign behind it. -/
def readAppetite : Reading Appetite := do
  if ← accept '?' then return .reluctant
  if ← accept '+' then return .possessive
  return .eager

/-- Puts a repetition on the last item of a sequence, which is given in reverse. -/
def repeatLast (least : Nat) (most : Option Nat) : List Item → Reading (List Item)
  | [] => refuse
  | last :: before => do
    if !last.repeatable then refuse
    return ⟨times last.pattern least most (← readAppetite), false⟩ :: before

/-- Items in a row as one pattern; they are given in reverse. -/
def ofItems (items : List Item) : Pattern :=
  match items.reverse with
  | [] => empty
  | first :: rest => rest.foldl (fun p item => seq p item.pattern) first.pattern

/-- What a character stands for that is neither a bracket nor a repetition. -/
def readPlain (w : Switches) (c : Char) : Item :=
  match c with
  | '^' => ⟨place (if w.seesLines then .lineStart else .textStart), false⟩
  | '$' => ⟨place (if w.seesLines then .lineEnd else .lastLineEnd), false⟩
  | '.' =>
    let hidden := if w.seesAll then [] else [.range '\n'.toNat '\n'.toNat]
    ⟨one ⟨.exact, hidden, true⟩, true⟩
  | c => ⟨ofCode w c.toNat, true⟩

/-- Whether a character does not count where blanks do not. -/
def isSpacing (c : Char) : Bool := c = ' ' || ('\t' ≤ c && c ≤ '\r')

def skipLine : Reading Unit := do
  let line := (← get).rest.takeWhile (· ≠ .plain '\n')
  if line.contains .cut then refuse
  modify fun d => { d with rest := d.rest.drop (line.length + 1) }

/-! ## Groups -/

def readName (stop : Char) : Reading (List Char) := do
  let name ← takeUntil stop
  if !isIdentifier name then refuse
  return name

/-- Opens a group, which may have a name of its own. -/
def openGroup (name : Option (List Char)) : Reading Nat := do
  let d ← get
  let index := d.groups.length + 1
  let named ← match name with
    | none => pure d.names
    | some n =>
      if (d.names.lookup n).isSome then refuse
      pure ((n, index) :: d.names)
  set { d with groups := d.groups ++ [none], names := named }
  return index

def widthOf (p : Pattern) : Reading Width := do
  let groups := (← get).groups
  return p.width fun index => (groups[index - 1]?.join).getD ⟨0, 0⟩

def closeGroup (index : Nat) (p : Pattern) : Reading Unit := do
  let w ← widthOf p
  modify fun d => { d with groups := d.groups.set (index - 1) (some w) }

/-- The group on which a part of a pattern depends, by its name or its number. -/
def readCondition : Reading Nat := do
  let name ← takeUntil ')'
  let index ←
    if isIdentifier name then demand ((← get).names.lookup name)
    else
      let n ← demand (readInt? 10 name)
      if n < 1 then refuse
      pure n.toNat
  checkFence index
  modify fun d => { d with asked := max d.asked index }
  return index

/-- Letters of switches, and what follows them. -/
def readLetters (first : Char) : Reading (List Char × Char) := do
  let more ← takeWhile Switches.letters.contains (← get).rest.length
  match ← next with
  | .plain c => return (first :: more, c)
  | _ => refuse

def areCompatible (letters : List Char) : Bool :=
  !letters.contains 'L' && !(letters.contains 'a' && letters.contains 'u')

/-- The switches of a group, of which the first character is given. -/
def readSwitches (w : Switches) (first : Char) : Reading Switches := do
  let (on, stop) ← if first = '-' then pure ([], '-') else readLetters first
  if !areCompatible on || on.contains 't' then refuse
  let off ←
    if stop = ':' then pure []
    else if stop = '-' then do
      match ← next with
      | .plain c =>
        if !Switches.letters.contains c then refuse
        let (off, stop) ← readLetters c
        if stop ≠ ':' || off.any ['a', 'L', 'u', 't'].contains then refuse
        pure off
      | _ => refuse
    else refuse
  if on.any off.contains then refuse
  return off.foldl (·.set false ·) (on.foldl (·.set true ·) w)

mutual
/-- Reads alternatives up to a closing parenthesis or the end. -/
def readAlternatives : Nat → Switches → Reading Pattern
  | 0, _ => refuse
  | fuel + 1, w => do
    let p ← readSequence fuel w []
    if ← accept '|' then return alt p (← readAlternatives fuel w)
    return p

/-- Reads items in a row; those already read come in reverse. -/
def readSequence : Nat → Switches → List Item → Reading Pattern
  | 0, _, _ => refuse
  | fuel + 1, w, items => do
    let sign ← peek
    if sign = none || sign = some (.plain '|') || sign = some (.plain ')') then return ofItems items
    match ← next with
    | .cut => refuse
    | .escaped c => readSequence fuel w ((← readEscape w c) :: items)
    | .plain c =>
      if w.isSpaced && isSpacing c then readSequence fuel w items
      else if w.isSpaced && c = '#' then
        skipLine
        readSequence fuel w items
      else if c = '(' then
        match ← readGroup fuel w with
        | none => readSequence fuel w items
        | some p => readSequence fuel w (⟨p, true⟩ :: items)
      else if c = '[' then readSequence fuel w (⟨← readSet w, true⟩ :: items)
      else
        match ← readRepetition c with
        | some (least, most) => readSequence fuel w (← repeatLast least most items)
        | none => readSequence fuel w (readPlain w c :: items)

/-- Reads a group behind its opening parenthesis; a comment is nothing. -/
def readGroup : Nat → Switches → Reading (Option Pattern)
  | 0, _ => refuse
  | fuel + 1, w => do
    if !(← accept '?') then readCapture fuel w none
    else match ← next with
      | .plain 'P' =>
        if ← accept '<' then readCapture fuel w (some (← readName '>'))
        else
          expect '='
          let index ← demand ((← get).names.lookup (← readName ')'))
          readAgain w index
      | .plain '#' =>
        let _ ← takeUntil ')'
        return none
      | .plain ':' => readBody fuel w
      | .plain '>' => return (← readBody fuel w).map settled
      | .plain '=' => return (← readBody fuel w).map (ahead · false)
      | .plain '!' => return (← readBody fuel w).map (ahead · true)
      | .plain '<' =>
        if ← accept '=' then readBehind fuel w false
        else
          expect '!'
          readBehind fuel w true
      | .plain '(' =>
        let index ← readCondition
        let yes ← readSequence fuel w []
        let no ← if ← accept '|' then readSequence fuel w [] else pure empty
        expect ')'
        return some (given index yes no)
      | .plain c =>
        if c = '-' || Switches.letters.contains c then readBody fuel (← readSwitches w c)
        else refuse
      | _ => refuse

/-- Reads the rest of a group that remembers its piece. -/
def readCapture : Nat → Switches → Option (List Char) → Reading (Option Pattern)
  | 0, _, _ => refuse
  | fuel + 1, w, name => do
    let index ← openGroup name
    let p ← readAlternatives fuel w
    expect ')'
    closeGroup index p
    return some (group index p)

/-- Reads the rest of a group. -/
def readBody : Nat → Switches → Reading (Option Pattern)
  | 0, _ => refuse
  | fuel + 1, w => do
    let p ← readAlternatives fuel w
    expect ')'
    return some p

/-- Reads the rest of a look behind. -/
def readBehind : Nat → Switches → Bool → Reading (Option Pattern)
  | 0, _, _ => refuse
  | fuel + 1, w, negated => do
    let outer := (← get).fence
    let count ← groupCount
    modify fun d => { d with fence := some (outer.getD count) }
    let p ← readAlternatives fuel w
    modify fun d => { d with fence := outer }
    expect ')'
    return some (behind p (← demand (← widthOf p).fixed?) negated)
end

/-- The switches for the whole pattern at its start, between which comments may stand. -/
def readLeadingSwitches : Nat → Switches → Reading Switches
  | 0, w => return w
  | fuel + 1, w => do
    let before ← get
    match before.rest with
    | .plain '(' :: .plain '?' :: .plain '#' :: _ =>
      let _ ← takeUntil ')'
      readLeadingSwitches fuel w
    | .plain '(' :: .plain '?' :: .plain c :: rest =>
      if !Switches.letters.contains c then return w
      let letters := c :: leading Switches.letters.contains rest
      match before.rest.drop (letters.length + 2) with
      | .plain ')' :: after =>
        if !areCompatible letters then refuse
        set { before with rest := after }
        readLeadingSwitches fuel (letters.foldl (·.set true ·) w)
      | _ => return w
    | .plain c :: _ =>
      if w.isSpaced && (isSpacing c || c = '#') then
        let _ ← next
        if c = '#' then skipLine
        readLeadingSwitches fuel w
      else return w
    | _ => return w

/-- Reads a whole pattern, at whose start some switches hold. -/
def readWhole (w : Switches) : Reading Pattern := do
  let v ← readLeadingSwitches (← get).rest.length w
  let p ← readAlternatives (4 * (← get).rest.length + 4) v
  if (← peek) ≠ none || (← groupCount) < (← get).asked then refuse
  return p

/-- Reads a text as a pattern, at whose start some switches hold. -/
def read (w : Switches) (s : List Char) : Except PatternError Pattern :=
  (readWhole w ⟨signs s, [], [], none, 0⟩).map (·.1)

end EditorLink.Pattern
