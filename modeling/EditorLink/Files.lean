import EditorLink.FilePath
import EditorLink.FileTrouble
/-!
# Files known in advance

Some files with their contents, and the folder from which paths without a root lead
on. A path is followed name by name, and every name but the last has to be that of a
folder. A folder is there if a file is in it, or if it leads to where one is.
-/
namespace EditorLink

/-- Some files with their contents. -/
structure Files where
  /-- The folder from which paths without a root lead on. -/
  here : FilePath
  contents : List (FilePath × List Char)

namespace Files
open Text

/-- The content of the file with some names from the root. -/
def content? (fs : Files) (names : List (List Char)) : Option (List Char) :=
  (fs.contents.find? fun f => f.1.names = names).map (·.2)

/-- Whether there is a folder with some names from the root. -/
def hasFolder (fs : Files) (names : List (List Char)) : Bool :=
  names.isPrefixOf fs.here.names || fs.contents.any fun f => names.isPrefixOf f.1.names.dropLast

def enter (folder : List (List Char)) (n : List Char) : List (List Char) :=
  if n = [] || n = ['.'] then folder else FilePath.climb folder n

def nameLimit : Nat := 255

def pathLimit : Nat := 4095

def byteCount (s : List Char) : Nat := (String.ofList s).utf8ByteSize

/-- Follows names from a folder or a file. -/
def follow (fs : Files) (start : List (List Char)) :
    List (List Char) → Except FileTrouble (List (List Char))
  | [] => .ok start
  | n :: rest =>
    if fs.hasFolder start then
      if nameLimit < byteCount n then .error .nameTooLong else fs.follow (enter start n) rest
    else match fs.content? start with
      | some _ => .error .throughFile
      | none => .error .missing

/-- Reads the file that a text names. -/
def read (fs : Files) (path : List Char) : Except FileTrouble (List Char) := do
  if path.contains '\x00' then throw .zeroCharacter
  if pathLimit < byteCount path then throw .nameTooLong
  let start := if FilePath.rootOf path = "" then fs.here.names else []
  let found ← fs.follow start (pieces (· = '/') path)
  if path = [] then .error .missing
  else if fs.hasFolder found then .error .folder
  else match fs.content? found with
    | some text => .ok text
    | none => .error .missing

end Files
end EditorLink
