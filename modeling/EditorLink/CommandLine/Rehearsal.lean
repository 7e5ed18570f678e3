import EditorLink.CommandLine.Plan
import EditorLink.Files
import EditorLink.Probe.Rehearsal
/-!
# Rehearsals of the command

The whole command on files and against a server that are known in advance.
-/
namespace EditorLink.CommandLine

/-- What the surroundings of the command say. -/
structure Environment where
  /-- The level of the log, if the arguments do not choose one. -/
  logLevel : Option String
  /-- Whether faults are looked for. -/
  debug : Option String

/-- How the command ends, with the level of its log. -/
inductive Ending where
  | help
  | refused (level : LogLevel) (e : CommandError)
  | probed (level : LogLevel) (plan : Plan) (probe : Probe)

def Plan.rehearse (plan : Plan) (server : RehearsedServer) (files : Files) : Probe :=
  (Probe.start plan.options plan.path plan.language plan.seconds (files.read plan.path.text)).rehearse server

/-- Carries out the command with some words. -/
def rehearse (server : RehearsedServer) (files : Files) (environment : Environment)
    (words : List String) : Ending :=
  match Arguments.read environment.logLevel words with
  | .error e => .refused .warning (.arguments e)
  | .ok none => .help
  | .ok (some a) =>
    match a.level environment.debug with
    | .error e => .refused .warning e
    | .ok level =>
      let file := a.configPath?.map fun path => (path, files.read path.toList)
      match Plan.ofArguments files.here a file with
      | .error e => .refused level e
      | .ok plan => .probed level plan (plan.rehearse server files)

end EditorLink.CommandLine
