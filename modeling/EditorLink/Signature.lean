import EditorLink.Contents
/-!
# Signature help

The signatures of the call around the cursor, of which one is active, and the
parameter that the cursor stands on. Shown are the active signature, what is
known of the active parameter, and what is known of the signature.
-/
namespace EditorLink

/-- How a parameter is named: by a text of its own or by a stretch of the signature. -/
inductive ParameterLabel where
  | text (s : List Char)
  | stretch (start stop : Int)

/-- One parameter of a signature. -/
structure Parameter where
  label : ParameterLabel
  documentation : Contents

/-- One way to call a function. -/
structure Signature where
  label : List Char
  documentation : Contents
  parameters : List Parameter
  activeParameter : Option Nat

/-- What a server knows of the call around the cursor. -/
structure SignatureHelp where
  signatures : List Signature
  activeSignature : Option Nat
  activeParameter : Option Nat
  /-- The message that carried it. -/
  payload : Value

namespace SignatureHelp

/-- The active signature; the first one where the server names none that exists. -/
def active? (help : SignatureHelp) : Option Signature :=
  match help.signatures[help.activeSignature.getD 0]? with
  | some s => some s
  | none => help.signatures.head?

/-- The parameter of a signature that the cursor stands on. -/
def activeParameter? (help : SignatureHelp) (s : Signature) : Option Parameter :=
  (s.activeParameter.or help.activeParameter).bind (s.parameters[·]?)

end SignatureHelp

def Parameter.name (p : Parameter) (s : Signature) : List Char :=
  match p.label with
  | .text name => name
  | .stretch start stop => Text.cut s.label start stop

/-- The line that tells what is known of a parameter, or nothing. -/
def Parameter.display (p : Parameter) (s : Signature) (r : Renderer) :
    Except Failure (List Char) := do
  let known ← p.documentation.display r
  return if known = [] then [] else p.name s ++ ':' :: ' ' :: known

/-- The text that shows signature help; it is empty where there is none. -/
def SignatureHelp.display (help : Option SignatureHelp) (r : Renderer) :
    Except Failure (List Char) :=
  match help.bind fun h => h.active?.map (h, ·) with
  | none => .ok []
  | some (h, s) => do
    let parameter ← match h.activeParameter? s with
      | none => pure []
      | some p => p.display s r
    let known ← s.documentation.display r
    return Text.joinWith Contents.gap (s.label :: [parameter, known].filter (· ≠ []))

end EditorLink
