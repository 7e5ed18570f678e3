import EditorLink.Value
/-!
# Shapes of messages

A message carries what its shape names and nothing else. Members that the shape does
not name are left out, and so are members that are null, except for those that always
stand. Data of any form is carried as it is, and nulls count inside of it.
-/
namespace EditorLink.Wire

/-- The value of a member that is present and not null. -/
def member? (key : String) (v : Value) : Option Value :=
  (v.field? key).filter fun m => !m.isNull

/-- What a part of a message carries. -/
inductive Shape where
  /-- Data of any form. -/
  | any
  /-- A list of items, or something else that is no list. -/
  | listOr (item single : Shape)
  /-- A mapping of any names to parts of one shape. -/
  | table (entry : Shape)
  /-- A mapping of some members; those of `always` stand with these values even where
  nothing else is said. -/
  | record (members : List (String × Shape)) (always : List (String × Value))
  /-- A mapping of one of two shapes, told apart by what it holds. -/
  | choice (test : Value → Bool) (yes no : Shape)

namespace Shape

/-- The shape that a mapping has among the alternatives. -/
def ofMapping (v : Value) : Shape → Shape
  | .listOr _ single => ofMapping v single
  | .choice test yes no => if test v then ofMapping v yes else ofMapping v no
  | s => s

def plain (names : List String) : List (String × Shape) := names.map (·, any)

/-- A mapping of some members, none of which stands where nothing is said. -/
def exactly (members : List (String × Shape)) : Shape := record members []

def listOf (item : Shape) : Shape := listOr item any

def oneOrMore (item : Shape) : Shape := listOr item item

def has (key : String) (v : Value) : Bool := (member? key v).isSome

def hasText (key : String) (v : Value) : Bool := ((member? key v).bind Value.text?).isSome

def hasWord (key word : String) (v : Value) : Bool := (member? key v).bind Value.text? == some word

end Shape

/-- A mapping in which some members stand even where nothing is said of them. -/
def withAlways (always : List (String × Value)) (entries : List (Value × Value)) :
    List (Value × Value) :=
  let missing := always.filter fun (key, _) => !entries.any fun (k, _) => k.text? = some key
  entries ++ missing.map fun (key, v) => (.text key, v)

mutual
/-- What a message of some shape carries of a value. -/
def conform (s : Shape) : Value → Value
  | .list items =>
    match s with
    | .listOr item _ => .list (conformItems item items)
    | _ => .list items
  | .mapping entries =>
    match s.ofMapping (.mapping entries) with
    | .record members always => .mapping (withAlways always (conformMembers members entries))
    | .table entry => .mapping (conformEntries entry entries)
    | _ => .mapping entries
  | v => v

def conformItems (item : Shape) : List Value → List Value
  | [] => []
  | v :: rest => conform item v :: conformItems item rest

/-- What is carried of the members of a mapping. -/
def conformMembers (members : List (String × Shape)) : List (Value × Value) → List (Value × Value)
  | [] => []
  | (k, v) :: rest =>
    match k.text?.bind fun key => members.lookup key with
    | none => conformMembers members rest
    | some s =>
      if v.isNull then conformMembers members rest
      else (k, conform s v) :: conformMembers members rest

/-- What is carried of the entries of a mapping of any names. -/
def conformEntries (entry : Shape) : List (Value × Value) → List (Value × Value)
  | [] => []
  | (k, v) :: rest => (k, conform entry v) :: conformEntries entry rest
end

/-- Data of any form is carried as it is. -/
@[simp]
theorem conform_any (v : Value) : conform .any v = v := by
  cases v <;> simp [conform, Shape.ofMapping]

end EditorLink.Wire
