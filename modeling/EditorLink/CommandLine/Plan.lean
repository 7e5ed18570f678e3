import EditorLink.CommandLine.Arguments
import EditorLink.Language
import EditorLink.LogLevel
import EditorLink.Options.File
/-!
# Plans

What the command is going to do, by its arguments and the options in a file: which
file it opens, in which language, and which server it starts. Arguments come before
options.
-/
namespace EditorLink.CommandLine

/-- Why the command cannot do its work. -/
inductive CommandError where
  | arguments (e : ArgumentsError)
  | options (e : OptionsError)
  /-- Nobody says which server to start. -/
  | noServer
  /-- The path of the file to open holds a character with the code zero. -/
  | zeroInPath
  /-- No level of a log has this name. -/
  | unknownLevel (name : String)
  /-- The options say something of a kind that is no list where a server is expected. -/
  | serverOfKind (kind : String)
  /-- The options have a mapping where a server is expected, maybe with an entry zero. -/
  | serverMapping (hasZero : Bool)

namespace CommandError

/-- What is said when the command cannot do its work. -/
def message : CommandError → String
  | arguments e => e.message
  | options e => e.message
  | noServer => "no language server command given (use '-- CMD...' or server_command)"
  | zeroInPath => "lstat: embedded null character in path"
  | unknownLevel name => "Unknown level: " ++ String.ofList (Text.quoted name.toList)
  | serverOfKind kind => s!"'{kind}' object is not subscriptable"
  | serverMapping false => "0"
  | serverMapping true => "unhashable type: 'slice'"

/-- Whether the user is told how to use the command. -/
def isMisuse : CommandError → Bool
  | arguments _ => true
  | options e => e.isAnticipated
  | noServer => true
  | _ => false

end CommandError

/-- The level of the log that the arguments choose; else everything is told to those
who look for faults, and only warnings to everybody else. -/
def Arguments.level (a : Arguments) (debug : Option String) : Except CommandError LogLevel :=
  let given := a.logLevel.text
  let standard := if debug.getD "" = "" then LogLevel.warning else .debug
  (LogLevel.ofName (if given = "" then standard.name else given)).mapError .unknownLevel

def Arguments.configPath? (a : Arguments) : Option String :=
  if a.config.text = "" then none else some a.config.text

/-- What the command is going to do. -/
structure Plan where
  /-- The file to open, from the root. -/
  path : FilePath
  language : String
  /-- The server to start: a program and its arguments. -/
  server : List Value
  options : Options
  /-- How many seconds to wait for diagnostics, if that is a number. -/
  seconds : Option Double

namespace Plan

/-- The options in a file, if one is named, with its path. -/
def readOptions (file : Option (String × Except FileTrouble (List Char))) :
    Except CommandError Options :=
  match file with
  | none => .ok .standard
  | some (path, content) => (Options.ofFile path content).mapError .options

/-- The server that the arguments or the options name. -/
def serverOf (command : List String) (fallback : Value) : Except CommandError (List Value) :=
  match command, fallback with
  | _ :: _, _ => .ok (command.map .text)
  | [], .list words => if words.isEmpty then .error .noServer else .ok words
  | [], .mapping entries =>
    if entries.isEmpty then .error .noServer
    else .error (.serverMapping (entries.any fun (key, _) => key.isZero))
  | [], v => if v.isTruthy then .error (.serverOfKind v.kind) else .error .noServer

/-- The plan by some arguments, in a folder, with the file of options that they name. -/
def ofArguments (here : FilePath) (a : Arguments)
    (file : Option (String × Except FileTrouble (List Char))) : Except CommandError Plan := do
  let options ← readOptions file
  if a.command = [] && !options.command.isTruthy then throw .noServer
  if a.file.toList.contains '\x00' then throw .zeroInPath
  let server ← serverOf a.command options.command
  let path := FilePath.resolve here (.ofText a.file.toList)
  let chosen := a.language.text
  return ⟨path, if chosen = "" then path.language else chosen, server, options, a.seconds⟩

end Plan
end EditorLink.CommandLine
