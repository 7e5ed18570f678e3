import EditorLink.Document.Position
/-!
# Diagnostics

What a server finds wrong with a document comes with ranges; the editor is told
offsets. A finding whose range the document does not have is dropped, and the
rest are shown in the order in which they start.
-/
namespace EditorLink

/-- How bad a finding is. -/
inductive Severity where
  | error
  | warning
  | info
  | hint
deriving DecidableEq

namespace Severity

/-- The severity with a number; findings without one of the known numbers count as errors. -/
def ofNumber : Option Int → Severity
  | some 2 => warning
  | some 3 => info
  | some 4 => hint
  | _ => error

/-- The name of a severity. -/
def name : Severity → String
  | error => "error"
  | warning => "warning"
  | info => "info"
  | hint => "hint"

end Severity

/-- A finding as the server sends it. -/
structure Finding where
  range : Range
  severity : Option Int
  message : String
  source : Option String

/-- A finding as the editor shows it. -/
structure Diagnostic where
  start : Int
  stop : Int
  severity : String
  message : String
  source : Option String
deriving DecidableEq

namespace Document

/-- What the editor shows for a finding, if the document has its range. -/
def diagnostic? (d : Document) (f : Finding) : Option Diagnostic :=
  (d.offsetsOf? f.range).map fun (start, stop) =>
    ⟨start, stop, (Severity.ofNumber f.severity).name, f.message, f.source⟩

/-- What the editor shows for some findings. -/
def diagnostics (d : Document) (findings : List Finding) : List Diagnostic :=
  (findings.filterMap d.diagnostic?).mergeSort fun a b => a.start ≤ b.start

/-- The line that reports a diagnostic of the file with a path. -/
def report (d : Document) (path : String) (g : Diagnostic) : Except Failure String := do
  let p ← d.positionOf g.start
  let source := match g.source with
    | none => ""
    | some s => if s = "" then "" else " [" ++ s ++ "]"
  return s!"{path}:{p.line + 1}:{p.character + 1}: {g.severity}{source} {g.message}"

end Document
end EditorLink
