import EditorLink.Yaml.Scalar
/-!
# Tokens of a YAML text

A text is cut into scalars and marks. Indentation is turned into marks for the start
and the end of collections. That something is a key is known only when the colon
behind it comes; its marks are then put in front of it.
-/
namespace EditorLink.Yaml
open EditorLink.Yaml.Cursor

/-- A scalar or a mark. -/
inductive Token where
  | version (major : Nat)
  | handle (name meaning : String)
  /-- A directive that means nothing. -/
  | reserved
  | documentStart
  | documentEnd
  | sequenceStart
  | mappingStart
  /-- The end of an indented collection. -/
  | blockEnd
  | openBracket
  | closeBracket
  | openBrace
  | closeBrace
  /-- The dash before an item. -/
  | item
  | comma
  | key
  | value
  | alias (name : String)
  | anchor (name : String)
  | tag (handle : Option String) (suffix : String)
  /-- A scalar; a plain one may stand for something other than a text. -/
  | scalar (isPlain : Bool) (text : List Char)
  /-- A place from which on the text cannot be cut. -/
  | broken (f : Fault)
deriving DecidableEq

/-- A place that a key may have started at. -/
structure KeyPlace where
  /-- How many tokens stand before it. -/
  tokens : Nat
  /-- Whether nothing else can be meant. -/
  isRequired : Bool
  index : Nat
  line : Nat
  column : Nat
deriving DecidableEq

/-- How far a text has been cut into tokens. -/
structure Lexer where
  cursor : Cursor
  /-- The column of the innermost indented collection, or -1. -/
  indent : Int
  /-- The columns of the collections around it. -/
  outer : List Int
  /-- For every open bracket and for what is outside of all, innermost first, where a
  key may have started. -/
  levels : List (Option KeyPlace)
  /-- Whether a key may start here. -/
  allowsKey : Bool
  tokens : List Token

namespace Lexer

def ofText (s : List Char) : Lexer := ⟨.ofText s, -1, [], [none], true, []⟩

def inBrackets (l : Lexer) : Bool := 1 < l.levels.length

def emit (l : Lexer) (t : Token) : Lexer := { l with tokens := l.tokens ++ [t] }

def advance (l : Lexer) (n : Nat) : Lexer := { l with cursor := skip n l.cursor }

/-- Goes on to the next token. Outside of brackets a key may start on every new line. -/
def skipBlanks : Nat → Lexer → Lexer
  | 0, l => l
  | fuel + 1, l =>
    let c := l.cursor.skipSpaces
    let c := if c.peek = some '#' then c.skipLine else c
    match c.lineBreak? with
    | none => { l with cursor := c }
    | some (_, c) => skipBlanks fuel { l with cursor := c, allowsKey := l.allowsKey || !l.inBrackets }

def longestKey : Nat := 1024

/-- Gives up a place that a key can no longer have started at. -/
def expire (c : Cursor) (place : Option KeyPlace) : Option (Option KeyPlace) :=
  match place with
  | none => some none
  | some k =>
    if k.line = c.line && c.index - k.index ≤ longestKey then some (some k)
    else if k.isRequired then none
    else some none

/-- Gives up all places that a key can no longer have started at. -/
def expireKeys (l : Lexer) : Option Lexer := do
  return { l with levels := ← l.levels.mapM (expire l.cursor) }

/-- Gives up the place at which a key may have started inside the innermost brackets. -/
def dropKey (l : Lexer) : Option Lexer :=
  match l.levels with
  | some k :: rest => if k.isRequired then none else some { l with levels := none :: rest }
  | _ => some l

/-- Notes that a key may start here. -/
def noteKey (l : Lexer) : Option Lexer :=
  if l.allowsKey then do
    let l ← l.dropKey
    let c := l.cursor
    let isRequired := !l.inBrackets && l.indent == c.column
    let place : KeyPlace := ⟨l.tokens.length, isRequired, c.index, c.line, c.column⟩
    return { l with levels := some place :: l.levels.tail }
  else some l

/-- Ends the indented collections that are deeper than a column. -/
def unwind (column : Int) : List Int → Lexer → Lexer
  | [], l => l
  | outer :: rest, l =>
    if column < l.indent then
      unwind column rest { l.emit .blockEnd with indent := outer, outer := rest }
    else l

/-- Ends the indented collections that are deeper than a column; in brackets there are none. -/
def unwindTo (l : Lexer) (column : Int) : Lexer :=
  if l.inBrackets then l else unwind column l.outer l

def deepen (l : Lexer) (column : Nat) : Option Lexer :=
  if l.indent < column then some { l with indent := column, outer := l.indent :: l.outer } else none

def closeAll (l : Lexer) : Option Lexer := do
  let l ← (l.unwindTo (-1)).dropKey
  return { l with allowsKey := false }

def isNameChar (c : Char) : Bool := c.isAlphanum || c = '-' || c = '_'

def isTagChar (c : Char) : Bool := c.isAlphanum || "-;/?:@&=+$,_.!~*'()[]%".toList.contains c

/-- The name of an anchor or an alias whose sign stands here. -/
def anchorName? (c : Cursor) : Option (String × Cursor) :=
  let (name, after) := c.next.span isNameChar
  if name ≠ [] && after.endsWith 0 (fun ch => isGap ch || "?:,]\x7d%@\x60".toList.contains ch) then
    some (String.ofList name, after)
  else none

/-- Puts bytes in the place of percent signs with two hexadecimal digits behind them. -/
def unescaped : List Char → Option (List UInt8)
  | [] => some []
  | '%' :: high :: low :: rest => do
    return .ofNat (16 * (← Number.hexValue? high) + (← Number.hexValue? low)) :: (← unescaped rest)
  | c :: rest =>
    if c = '%' then none else (unescaped rest).map ((String.singleton c).toUTF8.toList ++ ·)

/-- The part of a tag behind its handle. Its escapes stand for bytes of characters. -/
def tagSuffix? (c : Cursor) : Option (String × Cursor) := do
  let (suffix, after) := c.span isTagChar
  if suffix = [] then none
  return (← String.fromUTF8? ⟨(← unescaped suffix).toArray⟩, after)

/-- A handle that ends in an exclamation mark, as in tags and directives. -/
def tagHandle? (c : Cursor) : Option (String × Cursor) :=
  if c.peek ≠ some '!' then none
  else if c.ahead 1 = some ' ' then some ("!", c.next)
  else
    let (name, after) := c.next.span isNameChar
    if after.peek = some '!' then some ("!" ++ String.ofList name ++ "!", after.next) else none

/-- The tag whose sign stands here. -/
def tag? (c : Cursor) : Option (Token × Cursor) := do
  let (token, after) ←
    if c.ahead 1 = some '<' then do
      let (suffix, after) ← tagSuffix? (skip 2 c)
      if after.peek = some '>' then some (Token.tag none suffix, after.next) else none
    else if c.endsWith 1 isGap then some (Token.tag none "!", c.next)
    else
      let word := c.next.rest.takeWhile fun ch => !(ch = ' ' || isBreak ch)
      if word.contains '!' then do
        let (handle, after) ← tagHandle? c
        let (suffix, after) ← tagSuffix? after
        some (Token.tag (some handle) suffix, after)
      else do
        let (suffix, after) ← tagSuffix? c.next
        some (Token.tag (some "!") suffix, after)
  if after.endsWith 0 fun ch => ch = ' ' || isBreak ch then some (token, after) else none

/-- The directive whose sign stands here. -/
def directive? (c : Cursor) : Option (Token × Cursor) := do
  let (name, c) := c.next.span isNameChar
  if name = [] || !c.endsWith 0 (fun ch => ch = ' ' || isBreak ch) then none
  else
    let (token, c) ←
      if name = "YAML".toList then do
        let (major, c) := c.skipSpaces.span Char.isDigit
        let (minor, after) := c.next.span Char.isDigit
        if major ≠ [] && c.peek = some '.' && minor ≠ [] then
          some (Token.version (Number.valueIn 10 (major.map fun d => d.toNat - '0'.toNat)), after)
        else none
      else if name = "TAG".toList then do
        let (handle, c) ← tagHandle? c.skipSpaces
        if c.peek ≠ some ' ' then none
        else
          let (meaning, c) ← tagSuffix? c.skipSpaces
          some (Token.handle handle meaning, c)
      else some (.reserved, c.skipLine)
    if c.endsWith 0 fun ch => ch = ' ' || isBreak ch then
      some (token, ← c.restOfLine?)
    else none

def openFlow (l : Lexer) (t : Token) : Option Lexer := do
  let l ← l.noteKey
  return { (l.emit t).advance 1 with levels := none :: l.levels, allowsKey := true }

def closeFlow (l : Lexer) (t : Token) : Option Lexer := do
  let l ← l.dropKey
  let levels := if l.inBrackets then l.levels.tail else l.levels
  return { (l.emit t).advance 1 with levels := levels, allowsKey := false }

/-- A dash before an item. -/
def dash (l : Lexer) : Option Lexer := do
  let l ←
    if l.inBrackets then some l
    else if !l.allowsKey then none
    else match l.deepen l.cursor.column with
      | some deeper => some (deeper.emit .sequenceStart)
      | none => some l
  let l ← l.dropKey
  return { (l.emit .item).advance 1 with allowsKey := true }

/-- A question mark before a key. -/
def question (l : Lexer) : Option Lexer := do
  let l ←
    if l.inBrackets then some l
    else if !l.allowsKey then none
    else match l.deepen l.cursor.column with
      | some deeper => some (deeper.emit .mappingStart)
      | none => some l
  let l ← { l with allowsKey := !l.inBrackets }.dropKey
  return (l.emit .key).advance 1

/-- A colon before a value. What stands before it may turn out to be a key. -/
def colon (l : Lexer) : Option Lexer :=
  match l.levels with
  | some k :: rest =>
    let l := { l with levels := none :: rest, tokens := l.tokens.insertIdx k.tokens .key }
    let l := if l.inBrackets then l else match l.deepen k.column with
      | some deeper => { deeper with tokens := deeper.tokens.insertIdx k.tokens .mappingStart }
      | none => l
    some { (l.emit .value).advance 1 with allowsKey := false }
  | _ =>
    if l.inBrackets then some { (l.emit .value).advance 1 with allowsKey := false }
    else if !l.allowsKey then none
    else
      let l := match l.deepen l.cursor.column with
        | some deeper => deeper.emit .mappingStart
        | none => l
      some { (l.emit .value).advance 1 with allowsKey := true }

def word (l : Lexer) (t : Token) (c : Cursor) : Option Lexer := do
  let l ← l.noteKey
  return { l.emit t with cursor := c, allowsKey := false }

/-- Whether a plain scalar may start here. -/
def startsPlain (l : Lexer) : Bool :=
  match l.cursor.peek with
  | none => false
  | some c =>
    !(isGap c || "-?:,[]\x7b\x7d#&*!|>'\"%@\x60".toList.contains c) ||
      ((l.cursor.ahead 1).any (fun n => !isGap n) &&
        (c = '-' || (!l.inBrackets && (c = '?' || c = ':'))))

def atDocument (l : Lexer) (mark : List Char) : Bool :=
  l.cursor.column = 0 && l.cursor.rest.take 3 = mark && l.cursor.endsWith 3 isGap

def document (l : Lexer) (t : Token) : Option Lexer := do
  let l ← l.closeAll
  return (l.emit t).advance 3

/-- Cuts the token that starts with a character. -/
def cut (l : Lexer) (c : Char) : Option Lexer :=
  let wide := l.cursor.endsWith 1 isGap
  if c = '%' && l.cursor.column = 0 then do
    let l ← l.closeAll
    let (t, cursor) ← directive? l.cursor
    return { l.emit t with cursor := cursor }
  else if l.atDocument ['-', '-', '-'] then l.document .documentStart
  else if l.atDocument ['.', '.', '.'] then l.document .documentEnd
  else if c = '[' then l.openFlow .openBracket
  else if c = '\x7b' then l.openFlow .openBrace
  else if c = ']' then l.closeFlow .closeBracket
  else if c = '\x7d' then l.closeFlow .closeBrace
  else if c = ',' then do
    let l ← { l with allowsKey := true }.dropKey
    return (l.emit .comma).advance 1
  else if c = '-' && wide then l.dash
  else if c = '?' && (wide || l.inBrackets) then l.question
  else if c = ':' && (wide || l.inBrackets) then l.colon
  else if c = '*' then do
    let (name, cursor) ← anchorName? l.cursor
    l.word (.alias name) cursor
  else if c = '&' then do
    let (name, cursor) ← anchorName? l.cursor
    l.word (.anchor name) cursor
  else if c = '!' then do
    let (t, cursor) ← tag? l.cursor
    l.word t cursor
  else if (c = '|' || c = '>') && !l.inBrackets then do
    let l ← { l with allowsKey := true }.dropKey
    let (text, cursor) ← blockScalar? l.indent l.cursor
    return { l.emit (.scalar false text) with cursor := cursor }
  else if c = '\'' || c = '"' then
    match quotedScalar l.cursor with
    | .ok (text, cursor) => l.word (.scalar false text) cursor
    | .error .malformed => none
    | .error f => some { l.emit (.broken f) with cursor := { l.cursor with rest := [] } }
  else if l.startsPlain then do
    let l ← l.noteKey
    let p := plainScalar l.inBrackets (l.indent + 1).toNat l.cursor
    return { l.emit (.scalar true p.text) with cursor := p.cursor, allowsKey := p.endsLine }
  else none

/-- Cuts tokens up to the end of the text. -/
def run : Nat → Lexer → Option Lexer
  | 0, _ => none
  | fuel + 1, l => do
    let l ← (skipBlanks (l.cursor.rest.length + 1) l).expireKeys
    let l := l.unwindTo l.cursor.column
    match l.cursor.peek with
    | none => l.closeAll
    | some c => run fuel (← l.cut c)

end Lexer

/-- The tokens of a text. -/
def tokens? (s : List Char) : Option (List Token) :=
  if s.all isAllowed then
    let body := if s.head? = some '\ufeff' then s.tail else s
    (Lexer.run (body.length + 1) (.ofText body)).map (·.tokens)
  else none

end EditorLink.Yaml
