import EditorLink.CommandLine.Plan
/-!
# The command

Reads the arguments, the surroundings and the file with options, and tells what is
wrong with them. Servers are started elsewhere: a plan that could be carried out is
told as it is.
-/
namespace EditorLink.CommandLine

def commandName : String := "lspbridge"

def usage : String :=
  s!"usage: {commandName} [-h] [--config CONFIG] [--language-id LANGUAGE_ID] [--wait WAIT] " ++
    "[--log-level LOG_LEVEL] file [server_command ...]"

/-- Why the system could not read a file. -/
def troubleOf (e : IO.Error) : FileTrouble :=
  match e with
  | .inappropriateType _ 20 _ => .throughFile
  | .inappropriateType _ _ _ => .folder
  | .invalidArgument _ 36 _ => .nameTooLong
  | _ => .missing

/-- Reads a file. -/
def readFile (path : String) : IO (Except FileTrouble (List Char)) := do
  if path.toList.contains '\x00' then return .error .zeroCharacter
  try
    return .ok (← IO.FS.readFile path).toList
  catch e =>
    return .error (troubleOf e)

/-- Tells what is wrong, and how the command is used if that may help. -/
def complain (e : CommandError) : IO UInt32 := do
  if e.isMisuse then
    IO.eprintln usage
    IO.eprintln s!"{commandName}: error: {e.message}"
    return 2
  else
    IO.eprintln s!"{commandName}: {e.message}"
    return 1

/-- Tells what is going to be done. -/
def announce (level : LogLevel) (plan : Plan) : IO UInt32 := do
  IO.println s!"file: {String.ofList plan.path.text}"
  IO.println s!"language: {plan.language}"
  IO.println s!"server: {String.ofList (Value.list plan.server).display}"
  IO.println s!"log level: {level.name}"
  return 0

/-- Carries out the command with some words. -/
def run (words : List String) : IO UInt32 := do
  match Arguments.read (← IO.getEnv "LSPBRIDGE_LOG_LEVEL") words with
  | .error e => complain (.arguments e)
  | .ok none =>
    IO.println usage
    return 0
  | .ok (some a) =>
    match a.level (← IO.getEnv "DEBUG") with
    | .error e => complain e
    | .ok level =>
      let file ← match a.configPath? with
        | none => pure none
        | some path => pure (some (path, ← readFile path))
      let here := FilePath.ofText (← IO.currentDir).toString.toList
      match Plan.ofArguments here a file with
      | .error e => complain e
      | .ok plan => announce level plan

end EditorLink.CommandLine

def main (words : List String) : IO UInt32 := EditorLink.CommandLine.run words
