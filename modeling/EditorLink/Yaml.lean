import EditorLink.Yaml.Node
import EditorLink.Yaml.Plain
import EditorLink.Value.Display
/-!
# YAML texts

The plain data that a text stands for. In a mapping the last value of a key counts,
at the place of the first. A key of two less-than signs brings in the entries of
other mappings, where the entries of its own count more.

Whether a tree stands for anything is asked level by level: a collection is begun
before what is in it is looked at, and then its items are begun in turn. The first
fault that is met in this order is the fault of the text.
-/
namespace EditorLink.Yaml

/-- Whether two keys count as the same: truth values count as the numbers one and zero. -/
def sameKey : Value → Value → Bool
  | .null, .null => true
  | .text a, .text b => a == b
  | .bool a, .bool b => a == b
  | .int a, .int b => a == b
  | .bool a, .int b => b == (if a then 1 else 0)
  | .int a, .bool b => a == (if b then 1 else 0)
  | .float a, .float b => a.isSame b
  | .float a, .int b => a.isSame (Number.ofInt b)
  | .int a, .float b => (Number.ofInt a).isSame b
  | .float a, .bool b => a.isSame (if b then 1.0 else 0.0)
  | .bool a, .float b => b.isSame (if a then 1.0 else 0.0)
  | .bytes a, .bytes b => a == b
  | .other _ a _, .other _ b _ => a == b
  | _, _ => false

/-- Puts a value under a key, in the place of an earlier one. -/
def assign (entries : List (Value × Value)) (key v : Value) : List (Value × Value) :=
  if entries.any fun (k, _) => sameKey k key then
    entries.map fun (k, old) => if sameKey k key then (k, v) else (k, old)
  else entries ++ [(key, v)]

def assigned (entries : List (Value × Value)) : List (Value × Value) :=
  entries.foldl (fun es (k, v) => assign es k v) []

/-- What a tree is meant for. -/
def Node.kind : Node → Kind
  | .scalar none isPlain text => if isPlain then .ofPlain text else .text
  | .sequence none _ => .sequence
  | .mapping none _ => .mapping
  | .scalar (some tag) _ _ => .ofTag tag
  | .sequence (some tag) _ => .ofTag tag
  | .mapping (some tag) _ => .ofTag tag
  | .named _ _ => .stranger
  | .alias _ => .stranger

/-- A tree with the named trees in it. -/
structure Document where
  root : Node
  anchors : List (String × Node)
  /-- How many steps lead at most from the root to anything, without coming to a tree twice. -/
  depth : Nat

namespace Document

def target (d : Document) : Node → Option String × Node
  | .named name node => (some name, node)
  | .alias name => (some name, (d.anchors.lookup name).getD .empty)
  | node => (none, node)

def kindOf (d : Document) (n : Node) : Kind := (d.target n).2.kind

/-- The entries of a mapping, behind those that it brings in. A mapping that brings in
itself is met only once. -/
def flatten (d : Document) : Nat → List String → List (Node × Node) →
    Except Fault (List (Node × Node))
  | 0, _, _ => .ok []
  | fuel + 1, path, entries => do
    let own := entries.filter fun (k, _) => d.kindOf k ≠ .merge
    let ofMapping (n : Node) : Except Fault (List (Node × Node)) :=
      match d.target n with
      | (name, .mapping _ es) =>
        if name.any path.contains then .ok (es.filter fun (k, _) => d.kindOf k ≠ .merge)
        else d.flatten fuel (name.toList ++ path) es
      | _ => .error .malformed
    let brought ← (entries.filter fun (k, _) => d.kindOf k = .merge).mapM fun (_, v) =>
      match d.target v with
      | (_, .sequence _ items) => do return (← items.mapM ofMapping).reverse.flatten
      | _ => ofMapping v
    return brought.flatten ++ own

/-- The text of a scalar, or of what a mapping has under the sign for a default value. -/
def scalarText (d : Document) : Nat → Node → Except Fault (List Char)
  | 0, _ => .error .malformed
  | fuel + 1, n =>
    match (d.target n).2 with
    | .scalar _ _ text => .ok text
    | .mapping _ entries =>
      match entries.find? fun (k, _) => d.kindOf k = .standard with
      | some (_, v) => d.scalarText fuel v
      | none => .error .malformed
    | _ => .error .malformed

/-! ## Faults -/

/-- What is asked of a document. -/
inductive Demand where
  /-- A tree stands for something. -/
  | made (n : Node)
  /-- A tree stands for something that can be a key. -/
  | key (n : Node)
  /-- Nothing can meet the demand. -/
  | refused

/-- What is asked of the content of a collection, in order. -/
def demands (d : Document) (n : Node) : Except Fault (List Demand) := do
  match n.kind, n with
  | .sequence, .sequence _ items => return items.map .made
  | .pairs, .sequence _ items => return items.flatMap fun item =>
      match (d.target item).2 with
      | .mapping _ [(k, v)] => [.made k, .made v]
      | _ => [.refused]
  | .mapping, .mapping _ entries | .set, .mapping _ entries =>
    return (← d.flatten d.depth [] entries).flatMap fun (k, v) => [.key k, .made v]
  | _, _ => throw .malformed

/-- How far a document has been looked at. -/
structure Survey where
  /-- The names of the trees that have been met. -/
  met : List String
  /-- The collections that have been begun, last first. -/
  pending : List Node

/-- What the tree behind a key is meant for. The sign for a default value is a text there. -/
def entryKind (d : Document) (n : Node) : Kind :=
  let kind := d.kindOf n
  if kind = .standard then .text else kind

/-- Looks at a tree. A scalar is made at once, a collection is begun. -/
def meet (d : Document) (kind : Kind) (n : Node) (s : Survey) : Except Fault Survey := do
  let (name, node) := d.target n
  if name.any s.met.contains then return s
  let s := { s with met := name.toList ++ s.met }
  if kind.isCollection then return { s with pending := node :: s.pending }
  let _ ← scalarValue kind (← d.scalarText d.depth node)
  return s

def check (d : Document) (s : Survey) : Demand → Except Fault Survey
  | .made n => d.meet (d.kindOf n) n s
  | .key n => if (d.kindOf n).isCollection then .error .malformed else d.meet (d.entryKind n) n s
  | .refused => .error .malformed

/-- Looks at the collections that have been begun, level by level. -/
def survey (d : Document) : Nat → Survey → Except Fault Unit
  | 0, _ => .ok ()
  | fuel + 1, s =>
    if s.pending.isEmpty then .ok ()
    else do
      let next ← s.pending.reverse.foldlM (fun s n => do (← d.demands n).foldlM d.check s)
        { s with pending := [] }
      d.survey fuel next

/-! ## Values -/

def pair (k v : Value) : Value :=
  let shown := '(' :: Value.commaSeparated [k.display, v.display] ++ [')']
  .other "tuple" (if k.isShowable && v.isShowable then shown else []) true

def setOf (members : List Value) : Value :=
  let shown := if members.isEmpty then "set()".toList
    else '\x7b' :: Value.commaSeparated (members.map Value.display) ++ ['\x7d']
  .other "set" (if Value.areShowable members then shown else []) !members.isEmpty

/-- Where a tree stands: the steps that lead to it, last first, from the innermost named
tree around it or from the root. -/
structure Spot where
  name : Option String
  steps : List Nat
deriving DecidableEq

/-- The spot of a tree inside of another one, unless it has a name. -/
def Spot.inside (s : Spot) (step : Nat) : Spot := { s with steps := step :: s.steps }

/-- What a tree at a spot stands for on a path of trees; of one on its own path nothing but a
hint is shown. -/
def valueWith (d : Document) (hint : Kind → Spot → Node → List Char) :
    Nat → List Spot → Spot → Node → Value
  | 0, _, _, _ => .null
  | fuel + 1, path, spot, n =>
    let (name, node) := d.target n
    let spot := if name.isSome then ⟨name, []⟩ else spot
    let kind := d.entryKind n
    if kind.isCollection && path.contains spot then
      .other (Value.kind (if kind = .mapping then .mapping [] else .list [])) (hint kind spot n) true
    else
      -- The root itself is not on the path of what is in it.
      let path := if spot = ⟨(d.target d.root).1, []⟩ && path = [] then path else spot :: path
      let inner (child : Node × Nat) := d.valueWith hint fuel path (spot.inside child.2) child.1
      let entries (es : List (Node × Node)) : List (Value × Value) :=
        assigned <| ((d.flatten d.depth [] es).toOption.getD []).zipIdx.map fun ((k, v), i) =>
          (inner (k, 2 * i), inner (v, 2 * i + 1))
      match kind, node with
      | .sequence, .sequence _ items => .list (items.zipIdx.map inner)
      | .pairs, .sequence _ items => .list <| items.zipIdx.filterMap fun (item, i) =>
          match (d.target item).2 with
          | .mapping _ [(k, v)] => some (pair (inner (k, 2 * i)) (inner (v, 2 * i + 1)))
          | _ => none
      | .mapping, .mapping _ es => .mapping (entries es)
      | .set, .mapping _ es => setOf ((entries es).map (·.1))
      | kind, node =>
        ((d.scalarText d.depth node).bind (scalarValue kind)).toOption.getD .null

/-- Whether a message can show what a tree at a spot stands for, with all that is in it. -/
def isShowable (d : Document) (spot : Spot) (n : Node) : Bool :=
  (d.valueWith (fun kind _ _ => kind.loopText) d.depth [] spot n).isShowable

/-- What a document stands for. A tree on its own path cannot be shown if something that is in it
cannot be. -/
def value (d : Document) : Value :=
  let hint (kind : Kind) (spot : Spot) (n : Node) :=
    if d.isShowable spot n then kind.loopText else []
  d.valueWith hint d.depth [] ⟨none, []⟩ d.root

def data (d : Document) : Except Fault Value := do
  let first ← d.meet (d.kindOf d.root) d.root ⟨[], []⟩
  d.survey d.depth first
  return d.value

end Document

/-- The plain data that a text stands for; an empty text stands for nothing. -/
def read (s : List Char) : Except Fault Value := do
  let tokens ← match tokens? s with
    | some tokens => pure tokens
    | none => throw .malformed
  match ← Node.ofTokens tokens with
  | none => return .null
  | some root =>
    let anchors := root.anchors
    Document.data ⟨root, anchors, (anchors.length + 2) * (tokens.length + 2)⟩

end EditorLink.Yaml
