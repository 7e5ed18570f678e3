import EditorLink.Options
import EditorLink.Yaml
/-!
# Options in a file

Options are written in YAML. An empty file sets nothing.
-/
namespace EditorLink.Options

/-- The options in a file with a path, given its content or why it cannot be read. -/
def ofFile (path : String) (content : Except FileTrouble (List Char)) : Except OptionsError Options :=
  match content with
  | .error trouble => .error (.unreadableFile path trouble)
  | .ok text =>
    match Yaml.read (Text.universalNewlines text) with
    | .error .malformed => .error (.malformedFile path)
    | .error f => .error (.faultyFile f)
    | .ok .null => .ok standard
    | .ok (.mapping entries) => ofEntries entries
    | .ok _ => .error (.noMapping path)

end EditorLink.Options
