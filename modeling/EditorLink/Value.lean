import EditorLink.Number.Double
/-!
# Plain data

Settings and message payloads are trees of plain data whose shape is not known in
advance. The keys of a mapping keep their order and may be any value; in message
payloads they are texts.
-/
namespace EditorLink

/-- A tree of plain data. -/
inductive Value where
  | null
  | bool (b : Bool)
  | int (n : Int)
  | float (x : Double)
  | text (s : String)
  | list (items : List Value)
  | mapping (entries : List (Value × Value))
  | bytes (bs : List UInt8)
  /-- Something that no message can carry: of what kind it is, how it is shown, if it can be,
  and whether it counts as present. -/
  | other (kind : String) (shown : List Char) (isPresent : Bool)
deriving Inhabited

namespace Value

def object (fields : List (String × Value)) : Value :=
  .mapping (fields.map fun (key, v) => (.text key, v))

/-- The value of the first entry with a text key. -/
def field? (key : String) : Value → Option Value
  | .mapping entries => entries.findSome? fun (k, v) =>
      match k with
      | .text name => if name = key then some v else none
      | _ => none
  | _ => none

/-- Leaves out the entries with a text key. -/
def without (key : String) : Value → Value
  | .mapping entries => .mapping (entries.filter fun (k, _) =>
      match k with
      | .text name => name ≠ key
      | _ => true)
  | v => v

/-- Whether a value counts as present: not null, false, zero or empty. -/
def isTruthy : Value → Bool
  | .null => false
  | .bool b => b
  | .int n => n != 0
  | .float x => !x.isZero
  | .text s => s != ""
  | .list items => !items.isEmpty
  | .mapping entries => !entries.isEmpty
  | .bytes bs => !bs.isEmpty
  | .other _ _ isPresent => isPresent

/-- Whether a value counts as the number zero. -/
def isZero : Value → Bool
  | .bool b => !b
  | .int n => n == 0
  | .float x => x.isZero
  | _ => false

def isNull : Value → Bool
  | .null => true
  | _ => false

def text? : Value → Option String
  | .text s => some s
  | _ => none

def int? : Value → Option Int
  | .int n => some n
  | _ => none

/-- The whole number that a value counts as. -/
def whole? : Value → Option Int
  | .bool b => some (if b then 1 else 0)
  | .int n => some n
  | .float x => x.whole?
  | _ => none

def list? : Value → Option (List Value)
  | .list items => some items
  | _ => none

def bool? : Value → Option Bool
  | .bool b => some b
  | _ => none

end Value
end EditorLink
