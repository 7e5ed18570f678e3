import EditorLink.Character.Decimal
import EditorLink.Number.Reading
import EditorLink.Text.Quoted
import EditorLink.Value
/-!
# Arguments of the command

The command takes a file, the words that start a server, and options. Options may be
shortened as long as it is clear which one is meant, and may stand before or behind
the other words. The file and the words of the server have to stand together. Behind
a word of two dashes nothing is an option.
-/
namespace EditorLink.CommandLine
open EditorLink.Character

/-- The options of the command. -/
inductive Choice where
  | help
  | config
  | language
  | wait
  | logLevel
deriving DecidableEq

/-- The names of the options, in the order in which they are listed. -/
def choiceNames : List (String × Choice) := [("-h", .help), ("--help", .help),
  ("--config", .config), ("--language-id", .language), ("--wait", .wait),
  ("--log-level", .logLevel)]

/-- How messages call an option. -/
def Choice.title : Choice → String
  | help => "-h/--help"
  | config => "--config"
  | language => "--language-id"
  | wait => "--wait"
  | logLevel => "--log-level"

/-- Why the arguments cannot be used. -/
inductive ArgumentsError where
  | ambiguous (given : String) (candidates : List String)
  /-- An option stands without what it takes. -/
  | expectsArgument (choice : Choice)
  /-- An option that takes nothing stands with something. -/
  | takesNothing (choice : Choice) (given : String)
  | malformedSeconds (given : String)
  | missingFile
  | unrecognized (words : List String)

namespace ArgumentsError

/-- What is said about arguments that cannot be used. -/
def message : ArgumentsError → String
  | ambiguous given candidates =>
    s!"ambiguous option: {given} could match " ++ ", ".intercalate candidates
  | expectsArgument choice => s!"argument {choice.title}: expected one argument"
  | takesNothing choice given =>
    s!"argument {choice.title}: ignored explicit argument " ++
      String.ofList (Text.quoted given.toList)
  | malformedSeconds given =>
    s!"argument {Choice.wait.title}: invalid float value: " ++
      String.ofList (Text.quoted given.toList)
  | missingFile => "the following arguments are required: file, server_command"
  | unrecognized words => "unrecognized arguments: " ++ " ".intercalate words

end ArgumentsError

/-- What an option is set to. -/
inductive Setting where
  | unset
  /-- Two dashes do not count, so that nothing is left. -/
  | nothing
  | word (s : String)
deriving DecidableEq

namespace Setting

def text : Setting → String
  | word s => s
  | _ => ""

def value : Setting → Value
  | unset => .null
  | nothing => .list []
  | word s => .text s

def ofWord (s : String) : Setting := if s = "--" then nothing else word s

end Setting

/-- What the arguments say. -/
structure Arguments where
  file : String
  command : List String
  config : Setting
  language : Setting
  /-- How many seconds to wait for diagnostics, if that is a number. -/
  seconds : Option Double
  logLevel : Setting

/-- What a word is. -/
inductive Word where
  | plain (s : String)
  /-- Two dashes, behind which nothing is an option. -/
  | dashes
  | option (choice : Choice) (given : Option String)
  /-- An option that nobody knows. -/
  | stranger (s : String)
deriving DecidableEq

/-- Whether a word is a negative number, which is no option. -/
def isNegativeNumber (s : List Char) : Bool :=
  let body := if s.getLast? = some '\n' then s.dropLast else s
  match body with
  | '-' :: rest =>
    let whole := rest.takeWhile isDecimal
    match rest.dropWhile isDecimal with
    | [] => whole ≠ []
    | '.' :: fraction => fraction ≠ [] && fraction.all isDecimal
    | _ => false
  | _ => false

def cutAtEquals (s : List Char) : List Char × Option (List Char) :=
  match s.dropWhile (· ≠ '=') with
  | [] => (s, none)
  | _ :: given => (s.takeWhile (· ≠ '='), some given)

def candidates (start : List Char) : List (String × Choice) :=
  choiceNames.filter fun (name, _) => start.isPrefixOf name.toList

/-- What is wrong behind the short name of help: each letter has to be that name again. -/
def helpTrouble? : List Char → Option (List Char)
  | [] => none
  | 'h' :: rest => helpTrouble? rest
  | rest => some rest

/-- An option with what stands behind its name in the same word. -/
def optionWith (name : List Char) (choice : Choice) (given : List Char) : Word :=
  let trouble := if name = ['-', 'h'] && given ≠ [] then helpTrouble? given else some given
  .option choice (trouble.map String.ofList)

/-- What a word with a dash in front is, if it is no exact name of an option. -/
def classifyDashed (s : String) (c : Char) : Except ArgumentsError Word :=
  let fallback := if isNegativeNumber s.toList || s.toList.contains ' ' then Word.plain s else .stranger s
  if c = '-' then
    let (start, given) := cutAtEquals s.toList
    match candidates start with
    | [] => .ok fallback
    | [(name, choice)] =>
      .ok (given.elim (.option choice none) (optionWith name.toList choice))
    | many => .error (.ambiguous s (many.map (·.1)))
  else if c = 'h' then
    .ok (optionWith ['-', 'h'] .help (s.toList.drop 2))
  else .ok fallback

/-- What a word is. -/
def classify (s : String) : Except ArgumentsError Word :=
  match s.toList with
  | '-' :: c :: _ =>
    match choiceNames.lookup s with
    | some choice => .ok (.option choice none)
    | none =>
      match cutAtEquals s.toList with
      | (name, some given) =>
        match choiceNames.lookup (String.ofList name) with
        | some choice => .ok (optionWith name choice given)
        | none => classifyDashed s c
      | _ => classifyDashed s c
  | _ => .ok (.plain s)

/-- What some words are. -/
def classifyAll : List String → Except ArgumentsError (List Word)
  | [] => .ok []
  | s :: rest =>
    if s = "--" then .ok (.dashes :: rest.map .plain)
    else do return (← classify s) :: (← classifyAll rest)

/-- What has been found out so far. -/
structure Draft where
  /-- The file and the words of the server, once they have come. -/
  subject : Option (String × List String)
  config : Setting
  language : Setting
  seconds : Option Double
  logLevel : Setting
  /-- Words that are too many. -/
  extras : List String

namespace Draft

/-- How many seconds to wait if nobody says otherwise. -/
def standardSeconds : Double := 5.0

/-- Nothing has been found out; the level of the log comes from elsewhere. -/
def start (logLevel : Option String) : Draft :=
  ⟨none, .unset, .unset, some standardSeconds, logLevel.elim .unset .word, []⟩

/-- Takes over what an option is given. -/
def set (d : Draft) (given : String) : Choice → Except ArgumentsError Draft
  | .help => .ok d
  | .config => .ok { d with config := .ofWord given }
  | .language => .ok { d with language := .ofWord given }
  | .logLevel => .ok { d with logLevel := .ofWord given }
  | .wait =>
    if given = "--" then .ok { d with seconds := none }
    else match Number.readFloat? given.toList with
      | some x => .ok { d with seconds := some x }
      | none => .error (.malformedSeconds given)

def reject (d : Draft) (words : List String) : Draft := { d with extras := d.extras ++ words }

/-- The file and the words of the server in a row of words. Two dashes before or behind
the file do not count, nor the first two dashes among the words of the server. -/
def subjectOf? : List String → Option (String × List String)
  | [] => none
  | ["--"] => none
  | "--" :: file :: rest => some (file, rest.erase "--")
  | file :: "--" :: rest => some (file, rest.erase "--")
  | file :: rest => some (file, rest.erase "--")

/-- Takes a row of words that are no options: the first row is the file with the words
of the server, all later ones are too many. -/
def take (d : Draft) (row : List String) : Draft :=
  match d.subject, subjectOf? row with
  | none, some subject => { d with subject := some subject }
  | _, _ => d.reject row

/-- What the arguments say, when all words have been read. -/
def conclude (d : Draft) : Except ArgumentsError Arguments :=
  match d.subject, d.extras with
  | none, _ => .error .missingFile
  | some (file, command), [] => .ok ⟨file, command, d.config, d.language, d.seconds, d.logLevel⟩
  | some _, words => .error (.unrecognized words)

end Draft

/-- Reads words one by one, given what is known and the row of plain words before them;
nothing is found if help is wanted. -/
def readWords (d : Draft) (row : List String) : List Word → Except ArgumentsError (Option Draft)
  | [] => .ok (some (d.take row))
  | .plain s :: rest => readWords d (row ++ [s]) rest
  | .dashes :: rest => readWords d (row ++ ["--"]) rest
  | .stranger s :: rest => readWords ((d.take row).reject [s]) [] rest
  | .option .help none :: _ => .ok none
  | .option .help (some given) :: _ => .error (.takesNothing .help given)
  | .option choice (some given) :: rest => do readWords (← (d.take row).set given choice) [] rest
  | .option choice none :: .plain given :: rest => do
    readWords (← (d.take row).set given choice) [] rest
  | .option choice none :: _ => .error (.expectsArgument choice)

/-- What the arguments say; nothing if help is wanted. The level of the log may be
known from elsewhere. -/
def Arguments.read (logLevel : Option String) (words : List String) :
    Except ArgumentsError (Option Arguments) := do
  match ← readWords (.start logLevel) [] (← classifyAll words) with
  | none => return none
  | some d => return some (← d.conclude)

end EditorLink.CommandLine
