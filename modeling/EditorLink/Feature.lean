/-!
# Features

What an editor can be helped with. Each feature of a buffer is on or off.
-/
namespace EditorLink

/-- Something that an editor can be helped with. -/
inductive Feature where
  | diagnostics
  | hover
  | completion
  | definition
  | rename
  | codeActions
  | signatureHelp
  /-- Signature help that opens and closes while the user types. -/
  | signatureWhileTyping
deriving DecidableEq, Inhabited

namespace Feature

def all : List Feature :=
  [diagnostics, hover, completion, definition, rename, codeActions, signatureHelp,
    signatureWhileTyping]

/-- The name of a feature in settings. -/
def key : Feature → String
  | diagnostics => "diagnostics_enabled"
  | hover => "hover_enabled"
  | completion => "completion_enabled"
  | definition => "definition_enabled"
  | rename => "rename_enabled"
  | codeActions => "code_actions_enabled"
  | signatureHelp => "signature_help_enabled"
  | signatureWhileTyping => "signature_activate_on_typing"

def ofKey? (name : String) : Option Feature := all.find? (·.key = name)

/-- Whether a feature is on if nobody says otherwise. -/
def isStandard : Feature → Bool
  | signatureWhileTyping => false
  | _ => true

theorem ofKey?_key (f : Feature) : ofKey? f.key = some f := by cases f <;> decide

end Feature

abbrev Features := Feature → Bool

namespace Features

def standard : Features := Feature.isStandard

def set (features : Features) (changes : List (Feature × Bool)) : Features :=
  fun f => (changes.lookup f).getD (features f)

end Features
end EditorLink
