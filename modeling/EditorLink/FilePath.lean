import EditorLink.Text.Pieces
/-!
# File paths

A path is a list of names from a root, or from wherever one is. Empty names and
single points do not count. Two points lead to the folder above, but only once it
is known which folder that is.
-/
namespace EditorLink

/-- A path of names from a root or from wherever one is. -/
structure FilePath where
  /-- What the path starts with; empty for a path from wherever one is. -/
  root : String
  names : List (List Char)
deriving DecidableEq

namespace FilePath
open Text

/-- The root with which a text starts. Exactly two slashes are a root of their own. -/
def rootOf : List Char → String
  | '/' :: '/' :: '/' :: _ => "/"
  | '/' :: '/' :: _ => "//"
  | '/' :: _ => "/"
  | _ => ""

def ofText (s : List Char) : FilePath :=
  ⟨rootOf s, (pieces (· = '/') s).filter fun n => n ≠ [] && n ≠ ['.']⟩

def text (p : FilePath) : List Char :=
  if p.root = "" && p.names = [] then ['.'] else p.root.toList ++ joinWith ['/'] p.names

def name (p : FilePath) : List Char := p.names.getLast?.getD []

def parent (p : FilePath) : FilePath := { p with names := p.names.dropLast }

/-- The extension of a name: what starts at the last point, if something stands before
and behind that. -/
def extension (name : List Char) : List Char :=
  let behind := (name.reverse.takeWhile (· ≠ '.')).reverse
  let before := name.length - behind.length - 1
  if behind.length < name.length && behind ≠ [] && 0 < before then '.' :: behind else []

def climb (names : List (List Char)) (n : List Char) : List (List Char) :=
  if n = ['.', '.'] then names.dropLast else names ++ [n]

def resolve (here p : FilePath) : FilePath :=
  let start := if p.root = "" then here else ⟨"/", []⟩
  { start with names := p.names.foldl climb start.names }

def hexDigit (n : Nat) : Char := Char.ofNat (if n < 10 then '0'.toNat + n else 'A'.toNat + n - 10)

/-- Whether a byte stands for itself in the name of a resource. -/
def isUnreserved (b : UInt8) : Bool :=
  let c := Char.ofNat b.toNat
  c.isAlphanum || c = '_' || c = '.' || c = '-' || c = '~' || c = '/'

def escapeByte (b : UInt8) : List Char :=
  if isUnreserved b then [Char.ofNat b.toNat]
  else ['%', hexDigit (b.toNat / 16), hexDigit (b.toNat % 16)]

def uri (p : FilePath) : String :=
  "file://" ++ String.ofList ((String.ofList p.text).toUTF8.toList.flatMap escapeByte)

example : (ofText "a//./b/".toList).text = "a/b".toList := by decide
example : extension "a.tar.gz".toList = ".gz".toList ∧ extension ".bashrc".toList = [] ∧
    extension "a.".toList = [] := by decide

end FilePath
end EditorLink
