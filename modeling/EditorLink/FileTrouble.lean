import EditorLink.Text.Quoted
/-!
# Trouble with files

Why a file cannot be read, with the words and the number that the system has for it.
-/
namespace EditorLink

/-- Why a file cannot be read. -/
inductive FileTrouble where
  /-- There is no such file. -/
  | missing
  /-- The path leads through a file as if it were a folder. -/
  | throughFile
  /-- The path leads to a folder. -/
  | folder
  /-- The path, or a name in it, is too long. -/
  | nameTooLong
  /-- The path holds a character with the code zero, at which paths end for the system. -/
  | zeroCharacter
deriving DecidableEq

namespace FileTrouble

/-- The number of a trouble. -/
def number : FileTrouble → Nat
  | missing => 2
  | throughFile => 20
  | folder => 21
  | nameTooLong => 36
  | zeroCharacter => 22

/-- What the system calls a trouble. -/
def title : FileTrouble → String
  | missing => "No such file or directory"
  | throughFile => "Not a directory"
  | folder => "Is a directory"
  | nameTooLong => "File name too long"
  | zeroCharacter => "Invalid argument"

def message (t : FileTrouble) (path : String) : String :=
  if t = zeroCharacter then "embedded null byte"
  else s!"[Errno {t.number}] {t.title}: " ++ String.ofList (Text.quoted path.toList)

end FileTrouble
end EditorLink
