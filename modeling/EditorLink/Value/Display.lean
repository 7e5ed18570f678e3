import EditorLink.Number.Notation
import EditorLink.Text.Pieces
import EditorLink.Text.Quoted
import EditorLink.Value
/-!
# Values shown in messages

A message that rejects a value shows it in full: texts in quotes, lists in square
and mappings in curly brackets, and the shortest decimal form of a number. It cannot be
shown where a number in it is too long. A value that is nested more deeply than a stack
allows cannot be shown either; that limit belongs to the machine, and values have none here.
-/
namespace EditorLink.Value
open EditorLink.Text

/-- The name by which messages call what a value is. -/
def kind : Value → String
  | .null => "NoneType"
  | .bool _ => "bool"
  | .int _ => "int"
  | .float _ => "float"
  | .text _ => "str"
  | .list _ => "list"
  | .mapping _ => "dict"
  | .bytes _ => "bytes"
  | .other kind _ _ => kind

def commaSeparated (items : List (List Char)) : List Char := joinWith [',', ' '] items

mutual
/-- Whether a message can show a value, which no number in it must be too long for. -/
def isShowable : Value → Bool
  | .int n => Number.isWritable n
  | .list items => areShowable items
  | .mapping entries => areEntriesShowable entries
  | .other _ shown _ => shown ≠ []
  | _ => true

def areShowable : List Value → Bool
  | [] => true
  | v :: rest => isShowable v && areShowable rest

def areEntriesShowable : List (Value × Value) → Bool
  | [] => true
  | (k, v) :: rest => isShowable k && isShowable v && areEntriesShowable rest
end

mutual
/-- The form in which a message shows a value. -/
def display : Value → List Char
  | .null => "None".toList
  | .bool b => if b then "True".toList else "False".toList
  | .int n => (toString n).toList
  | .float x => Number.shortest x
  | .text s => quoted s.toList
  | .list items => '[' :: commaSeparated (displayItems items) ++ [']']
  | .mapping entries => '\x7b' :: commaSeparated (displayEntries entries) ++ ['\x7d']
  | .bytes bs => 'b' :: quotedBytes bs
  | .other _ shown _ => shown

def displayItems : List Value → List (List Char)
  | [] => []
  | v :: rest => display v :: displayItems rest

def displayEntries : List (Value × Value) → List (List Char)
  | [] => []
  | (k, v) :: rest => (display k ++ ':' :: ' ' :: display v) :: displayEntries rest
end

end EditorLink.Value
