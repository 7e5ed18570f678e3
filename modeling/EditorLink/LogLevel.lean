import EditorLink.Character.Case
/-!
# Levels of a log

How much a program tells about its work. Some levels have a second name.
-/
namespace EditorLink

/-- How grave a message has to be to get into a log. -/
inductive LogLevel where
  | critical
  | error
  | warning
  | info
  | debug
  /-- All messages get into the log. -/
  | unset
deriving DecidableEq

namespace LogLevel

/-- The name of a level. -/
def name : LogLevel → String
  | critical => "CRITICAL"
  | error => "ERROR"
  | warning => "WARNING"
  | info => "INFO"
  | debug => "DEBUG"
  | unset => "NOTSET"

def names : List (String × LogLevel) :=
  [critical, error, warning, info, debug, unset].map (fun l => (l.name, l)) ++
    [("FATAL", critical), ("WARN", warning)]

/-- The level with a name, whatever its case, or the name in upper case if there is no
such level. -/
def ofName (given : String) : Except String LogLevel :=
  let upper := String.ofList (Character.uppercase given.toList)
  match names.lookup upper with
  | some l => .ok l
  | none => .error upper

/-- The level with the number that servers use. -/
def ofNumber : Int → LogLevel
  | 1 => error
  | 2 => warning
  | 4 => debug
  | _ => info

end LogLevel
end EditorLink
