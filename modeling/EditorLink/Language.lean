import EditorLink.Character.Case
import EditorLink.FilePath
/-!
# Languages of files

The language of a file is guessed from the extension of its name.
-/
namespace EditorLink

/-- The languages of well-known extensions. -/
def languageTable : List (String × String) := [
  (".py", "python"),
  (".pyi", "python"),
  (".js", "javascript"),
  (".jsx", "javascriptreact"),
  (".ts", "typescript"),
  (".tsx", "typescriptreact"),
  (".rs", "rust"),
  (".go", "go"),
  (".php", "php"),
  (".c", "c"),
  (".h", "c"),
  (".cpp", "cpp"),
  (".java", "java"),
  (".rb", "ruby"),
  (".sh", "shellscript")]

/-- The language of a file that is no more than text. -/
def plainLanguage : String := "plaintext"

/-- The language of a file. The case of a well-known extension does not matter; an
unknown one is taken for the name of the language. -/
def FilePath.language (p : FilePath) : String :=
  let extension := extension p.name
  match languageTable.lookup (String.ofList (Character.lowercase extension)) with
  | some language => language
  | none => if extension = [] then plainLanguage else String.ofList extension.tail

end EditorLink
