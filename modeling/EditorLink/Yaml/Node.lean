import EditorLink.Yaml.Token
/-!
# Trees of a YAML text

A text holds one tree of scalars, sequences and mappings. A tree can be given a name
and be used again under it from there on, even inside of itself.
-/
namespace EditorLink.Yaml

/-- A tree. A tag says what a tree stands for; without one its form does. -/
inductive Node where
  | scalar (tag : Option String) (isPlain : Bool) (text : List Char)
  | sequence (tag : Option String) (items : List Node)
  | mapping (tag : Option String) (entries : List (Node × Node))
  /-- A tree with a name. -/
  | named (name : String) (node : Node)
  /-- The tree with a name, which stands elsewhere. -/
  | alias (name : String)

namespace Node

def empty : Node := .scalar none true []

mutual
/-- The named trees in a tree, by their names. -/
def anchors : Node → List (String × Node)
  | .scalar _ _ _ => []
  | .sequence _ items => anchorsOfItems items
  | .mapping _ entries => anchorsOfEntries entries
  | .named name node => (name, node) :: anchors node
  | .alias _ => []

def anchorsOfItems : List Node → List (String × Node)
  | [] => []
  | n :: rest => anchors n ++ anchorsOfItems rest

def anchorsOfEntries : List (Node × Node) → List (String × Node)
  | [] => []
  | (k, v) :: rest => anchors k ++ anchors v ++ anchorsOfEntries rest
end

end Node

/-- What is still to be read, and what names and handles mean. -/
structure Reading where
  tokens : List Token
  /-- The names that have been given. -/
  names : List String
  handles : List (String × String)

abbrev Read := StateT Reading (Except Fault)

namespace Read

def refuse : Read α := throw .malformed

def peek : Read (Option Token) := do
  match (← get).tokens.head? with
  | some (.broken f) => throw f
  | next => return next

def drop : Read Unit := modify fun r => { r with tokens := r.tokens.tail }

/-- Goes on behind a token that may stand here, and tells whether it does. -/
def accept (t : Token) : Read Bool := do
  if (← peek) = some t then
    drop
    return true
  else return false

def expect (t : Token) : Read Unit := do
  if !(← accept t) then refuse

def isAt (ts : List Token) : Read Bool := do return (← peek).any ts.contains

/-- The anchor that stands here, if any. -/
def anchor : Read (Option String) := do
  match ← peek with
  | some (.anchor name) =>
    drop
    return some name
  | _ => return none

/-- The tag that stands here, if any, with its handle replaced by what it means. -/
def tag : Read (Option String) := do
  match ← peek with
  | some (.tag none suffix) =>
    drop
    return some suffix
  | some (.tag (some handle) suffix) =>
    drop
    match (← get).handles.lookup handle with
    | some meaning => return some (meaning ++ suffix)
    | none => refuse
  | _ => return none

/-- The anchor and the tag that stand here in any order. -/
def properties : Read (Option String × Option String) := do
  match ← anchor with
  | some name => return (some name, ← tag)
  | none =>
    let t ← tag
    if t.isSome then return (← anchor, t) else return (none, none)

/-- Notes that a name is given; that can be done once. -/
def giveName (anchor : Option String) : Read Unit := do
  match anchor with
  | none => return
  | some n =>
    if (← get).names.contains n then refuse
    modify fun r => { r with names := n :: r.names }

def name (anchor : Option String) (node : Node) : Node :=
  anchor.elim node (.named · node)

/-- The tag that says nothing: a tree with it counts as one without. -/
def noTag : String := "!"

mutual
/-- A tree. Indented collections may stand here unless it is in brackets, and the items
of a sequence may stand here without further indentation if that is said. -/
def node (inBlock flat : Bool) : Nat → Read Node
  | 0 => refuse
  | fuel + 1 => do
    match ← peek with
    | some (.alias n) =>
      drop
      if !(← get).names.contains n then refuse
      return .alias n
    | _ =>
      let (anchor, tag) ← properties
      giveName anchor
      let collectionTag := tag.filter (· ≠ noTag)
      if flat && (← isAt [.item]) then
        return name anchor (.sequence collectionTag (← flatItems fuel))
      else
        match ← peek with
        | some (.scalar isPlain text) =>
          drop
          let isPlain := if tag = some noTag then true else isPlain
          return name anchor (.scalar collectionTag isPlain text)
        | some .openBracket =>
          drop
          return name anchor (.sequence collectionTag (← bracketItems true fuel))
        | some .openBrace =>
          drop
          return name anchor (.mapping collectionTag (← braceEntries true fuel))
        | some .sequenceStart =>
          if inBlock then
            drop
            return name anchor (.sequence collectionTag (← items fuel))
          else if anchor.isSome || tag.isSome then return name anchor (.scalar collectionTag true [])
          else refuse
        | some .mappingStart =>
          if inBlock then
            drop
            return name anchor (.mapping collectionTag (← entries fuel))
          else if anchor.isSome || tag.isSome then return name anchor (.scalar collectionTag true [])
          else refuse
        | _ =>
          if anchor.isSome || tag.isSome then return name anchor (.scalar collectionTag true [])
          else refuse

/-- A tree, or nothing if one of some tokens stands here. -/
def nodeUnless (ends : List Token) (inBlock flat : Bool) : Nat → Read Node
  | 0 => refuse
  | fuel + 1 => do
    if (← isAt ends) || (← peek).isNone then return .empty else node inBlock flat fuel

/-- The items of an indented sequence. -/
def items : Nat → Read (List Node)
  | 0 => refuse
  | fuel + 1 => do
    if ← accept .item then
      let first ← nodeUnless [.item, .blockEnd] true false fuel
      return first :: (← items fuel)
    else
      expect .blockEnd
      return []

/-- The items of a sequence without further indentation. -/
def flatItems : Nat → Read (List Node)
  | 0 => refuse
  | fuel + 1 => do
    if ← accept .item then
      let first ← nodeUnless [.item, .key, .value, .blockEnd] true false fuel
      return first :: (← flatItems fuel)
    else return []

/-- The entries of an indented mapping. -/
def entries : Nat → Read (List (Node × Node))
  | 0 => refuse
  | fuel + 1 => do
    let ends := [.key, .value, .blockEnd]
    if ← accept .key then
      let key ← nodeUnless ends true true fuel
      let value ← if ← accept .value then nodeUnless ends true true fuel else pure .empty
      return (key, value) :: (← entries fuel)
    else
      expect .blockEnd
      return []

/-- The items in square brackets, with commas between them. -/
def bracketItems (first : Bool) : Nat → Read (List Node)
  | 0 => refuse
  | fuel + 1 => do
    if ← accept .closeBracket then return []
    else
      if !first then expect .comma
      if ← accept .closeBracket then return []
      else if ← accept .key then
        let key ← nodeUnless [.value, .comma, .closeBracket] false false fuel
        let value ←
          if ← accept .value then nodeUnless [.comma, .closeBracket] false false fuel
          else pure .empty
        return .mapping none [(key, value)] :: (← bracketItems false fuel)
      else
        let item ← node false false fuel
        return item :: (← bracketItems false fuel)

/-- The entries in curly brackets, with commas between them. -/
def braceEntries (first : Bool) : Nat → Read (List (Node × Node))
  | 0 => refuse
  | fuel + 1 => do
    if ← accept .closeBrace then return []
    else
      if !first then expect .comma
      if ← accept .closeBrace then return []
      else if ← accept .key then
        let key ← nodeUnless [.value, .comma, .closeBrace] false false fuel
        let value ←
          if ← accept .value then nodeUnless [.comma, .closeBrace] false false fuel
          else pure .empty
        return (key, value) :: (← braceEntries false fuel)
      else
        let key ← node false false fuel
        return (key, .empty) :: (← braceEntries false fuel)
end

/-- The handles that mean something without being declared. -/
def standardHandles : List (String × String) := [("!", "!"), ("!!", "tag:yaml.org,2002:")]

/-- The directives before a document. -/
def directives : Nat → Bool → List (String × String) → Read Unit
  | 0, _, _ => refuse
  | fuel + 1, hasVersion, declared => do
    match ← peek with
    | some (.version major) =>
      drop
      if hasVersion || major ≠ 1 then refuse else directives fuel true declared
    | some (.handle name meaning) =>
      drop
      if (declared.lookup name).isSome then refuse
      else directives fuel hasVersion ((name, meaning) :: declared)
    | some .reserved =>
      drop
      directives fuel hasVersion declared
    | _ => modify fun r => { r with handles := declared ++ standardHandles }

def documentEnds : Nat → Read Unit
  | 0 => return
  | fuel + 1 => do if ← accept .documentEnd then documentEnds fuel

/-- Whether a directive stands here. -/
def atDirective : Read Bool := do
  match ← peek with
  | some (.version _) => return true
  | some (.handle _ _) => return true
  | some .reserved => return true
  | _ => return false

def announced (fuel : Nat) : Read Node := do
  if (← atDirective) || (← isAt [.documentStart, .documentEnd]) || (← peek).isNone then
    return .empty
  else node true false fuel

/-- The only document of a text; `none` if the text has none. -/
def document (fuel : Nat) : Read (Option Node) := do
  if (← peek).isNone then return none
  let isAnnounced := (← atDirective) || (← isAt [.documentStart])
  let tree ←
    if isAnnounced then do
      directives fuel false []
      expect .documentStart
      announced fuel
    else node true false fuel
  documentEnds fuel
  if (← peek).isSome then refuse
  return some tree

end Read

namespace Node

/-- The tree that tokens stand for; the inner `none` means that there is none. -/
def ofTokens (tokens : List Token) : Except Fault (Option Node) :=
  (Read.document (4 * (tokens.length + 1)) ⟨tokens, [], Read.standardHandles⟩).map (·.1)

end Node
end EditorLink.Yaml
