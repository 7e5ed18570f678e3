import EditorLink.Feature
import EditorLink.FileTrouble
import EditorLink.Message
import EditorLink.Number.Reading
import EditorLink.Value.Display
import EditorLink.Yaml.Fault
/-!
# Options

What a user may set for a session, as plain data from a file. Names that nobody
knows are rejected. Folders, the timeout and the command of the server are brought
into form; everything else is taken as it comes. A value that is rejected is shown, however
deeply it is nested.
-/
namespace EditorLink

/-- Why options cannot be used. -/
inductive OptionsError where
  /-- The file with a path cannot be read. -/
  | unreadableFile (path : String) (trouble : FileTrouble)
  /-- A file is not well formed. -/
  | malformedFile (path : String)
  /-- A file holds something other than a mapping. -/
  | noMapping (path : String)
  /-- There are options of a section that nobody knows. -/
  | unknownKeys (part : String) (keys : List String)
  | featuresNoMapping
  | folderWithoutUri
  | malformedFolder
  | malformedTimeout (v : Value)
  /-- The first of the options that nobody knows has no name, but is of some kind. -/
  | namelessKey (kind : String)
  /-- The options that nobody knows cannot be put in order. -/
  | unorderedKeys (first second : String)
  /-- A timeout that no floating-point number comes near. -/
  | timeoutTooLarge
  /-- Something is to be shown that holds a number with too many digits. -/
  | overlongNumber
  /-- Something in a file cannot be made what it is meant for. -/
  | faultyFile (f : Yaml.Fault)

namespace OptionsError

/-- Whether it is an error that the user is told about, and not one that nobody
thought of. -/
def isAnticipated : OptionsError → Bool
  | unreadableFile _ .zeroCharacter => false
  | namelessKey _ => false
  | unorderedKeys _ _ => false
  | timeoutTooLarge => false
  | overlongNumber => false
  | faultyFile _ => false
  | _ => true

/-- What is said about options that cannot be used. -/
def message : OptionsError → String
  | unreadableFile path .zeroCharacter => FileTrouble.zeroCharacter.message path
  | unreadableFile path trouble => s!"Cannot read config {path}: {trouble.message path}"
  | malformedFile path => s!"Invalid YAML in {path}"
  | noMapping path => s!"Config {path} must contain a mapping"
  | unknownKeys part keys => s!"Unknown {part} option(s): " ++ ", ".intercalate keys
  | featuresNoMapping => "'features' must be a mapping"
  | folderWithoutUri => "Invalid workspace_folders entry: 'uri'"
  | malformedFolder => "Invalid workspace_folders entry"
  | malformedTimeout v => "Invalid timeout: " ++ String.ofList v.display
  | namelessKey kind => s!"sequence item 0: expected str instance, {kind} found"
  | unorderedKeys first second =>
    s!"'<' not supported between instances of '{first}' and '{second}'"
  | timeoutTooLarge => "int too large to convert to float"
  | overlongNumber =>
    s!"Exceeds the limit ({Number.maxDigits} digits) for integer string conversion; " ++
      "use sys.set_int_max_str_digits() to increase the limit"
  | faultyFile f => f.message

end OptionsError

/-- What a user may set for a session. -/
structure Options where
  rootUri : Value
  folders : Option (List Folder)
  seconds : Double
  initializationOptions : Value
  autoClose : Value
  command : Value
  features : Feature → Value

namespace Options

/-- What holds if the user sets nothing. -/
def standard : Options where
  rootUri := .null
  folders := none
  seconds := 10.0
  initializationOptions := .null
  autoClose := .bool false
  command := .list []
  features := fun f => .bool f.isStandard

def names : List String := ["root_uri", "workspace_folders", "timeout", "initialization_options",
  "auto_close", "server_command", "features"]

/-- The keys of a mapping that are none of the given names. -/
def strangers (known : List String) (entries : List (Value × Value)) : List Value :=
  (entries.map (·.1)).filter fun key =>
    match key with
    | .text name => !known.contains name
    | _ => true

/-- The number that a key stands for, if it is one. -/
def number? : Value → Option Double
  | .bool b => some (if b then 1.0 else 0.0)
  | .int n => some (Number.ofInt n)
  | .float x => some x
  | _ => none

/-- The key with the least number. -/
def least (first : Value) (rest : List Value) : Value :=
  rest.foldl (fun a b =>
    match number? a, number? b with
    | some x, some y => if y < x then b else a
    | _, _ => a) first

/-- Rejects the keys that are none of the given names, smallest first. Keys that cannot be
put in order are named by a kind and that of a key before it; numbers come first. -/
def checkKeys (part : String) (known : List String) (entries : List (Value × Value)) :
    Except OptionsError Unit :=
  match strangers known entries with
  | [] => .ok ()
  | key :: rest =>
    match (key :: rest).mapM Value.text? with
    | some keys => .error (.unknownKeys part (keys.mergeSort fun a b => !decide (b < a)))
    | none =>
      let areOrdered := ((key :: rest).mapM number?).isSome ||
        (!key.isNull && rest.all fun v => v.kind = key.kind)
      if rest.isEmpty || areOrdered then
        .error (.namelessKey (least key rest).kind)
      else
        let numbers := (key :: rest).filter fun v => (number? v).isSome
        let first := numbers.headD key
        let others := (key :: rest).filter fun v => (number? v).isNone && v.kind ≠ first.kind
        .error (.unorderedKeys (others.headD first).kind first.kind)

/-- Rejects a value by an error that shows it, if it can be shown. -/
def reject (v : Value) (e : OptionsError) : OptionsError :=
  if v.isShowable then e else .overlongNumber

/-- Brings one folder into form. Its name is its location unless it has one. -/
def readFolder (v : Value) : Except OptionsError Folder :=
  match v with
  | .mapping _ =>
    match v.field? "uri" with
    | none => .error .folderWithoutUri
    | some uri =>
      match uri, (v.field? "name").getD uri with
      | .text uri, .text name => .ok ⟨uri, name⟩
      | .text _, name => .error (reject name .malformedFolder)
      | uri, _ => .error (reject uri .malformedFolder)
  | _ => .error .malformedFolder

/-- Brings the folders into form. -/
def readFolders (v : Value) : Except OptionsError (Option (List Folder)) :=
  match v with
  | .null => .ok none
  | .list items => (items.mapM readFolder).map some
  | .text s => if s = "" then .ok (some []) else .error .malformedFolder
  | .mapping entries => if entries.isEmpty then .ok (some []) else .error .malformedFolder
  | .bytes bs => if bs.isEmpty then .ok (some []) else .error .malformedFolder
  | .other _ _ false => .ok (some [])
  | _ => .error .malformedFolder

/-- Brings the timeout into form. -/
def readTimeout (v : Value) : Except OptionsError Double :=
  match v with
  | .bool b => .ok (if b then 1.0 else 0.0)
  | .int n =>
    let x := Number.ofInt n
    if x.isInfinite then .error .timeoutTooLarge else .ok x
  | .float x => .ok x
  | .text s =>
    match Number.readFloat? s.toList with
    | some x => .ok x
    | none => .error (.malformedTimeout v)
  | .bytes bs =>
    match if bs.all (·.toNat < 128) then Number.readFloat? (bs.map (Char.ofNat ·.toNat)) else none with
    | some x => .ok x
    | none => .error (.malformedTimeout v)
  | _ => .error (reject v (.malformedTimeout v))

/-- Brings the command of the server into form: a text is split at white space. -/
def readCommand (v : Value) : Value :=
  match v with
  | .text s => .list ((Character.splitBlank s.toList).map fun w => .text (String.ofList w))
  | _ => v

/-- Brings the features into form. -/
def readFeatures (v : Value) : Except OptionsError (Feature → Value) :=
  match v with
  | .mapping entries => do
    checkKeys "feature" (Feature.all.map Feature.key) entries
    return fun f => (v.field? f.key).getD (.bool f.isStandard)
  | v => if v.isTruthy then .error .featuresNoMapping else .ok fun f => .bool f.isStandard

/-- The options that plain data sets. -/
def ofEntries (entries : List (Value × Value)) : Except OptionsError Options := do
  checkKeys "client" names entries
  let data := Value.mapping entries
  let features ← readFeatures ((data.field? "features").getD .null)
  let folders ← readFolders ((data.field? "workspace_folders").getD .null)
  let seconds ← match data.field? "timeout" with
    | none => pure standard.seconds
    | some v => readTimeout v
  return {
    rootUri := (data.field? "root_uri").getD standard.rootUri
    folders := folders
    seconds := seconds
    initializationOptions := (data.field? "initialization_options").getD .null
    autoClose := (data.field? "auto_close").getD standard.autoClose
    command := readCommand ((data.field? "server_command").getD standard.command)
    features := features }

end Options
end EditorLink
