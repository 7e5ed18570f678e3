import EditorLink.Pattern.Reader
/-!
# Texts as written patterns

A text becomes a pattern that matches nothing else by a backslash before each of its
characters that could mean something. Written patterns are put together from others
as alternatives and as groups.
-/
namespace EditorLink.Pattern

/-- The characters that could mean something in a written pattern, if only under switches. -/
def special : List Char := "()[]\x7b\x7d?*+-|^$\\.&~# \t\n\r\x0b\x0c".toList

/-- The written pattern for a text itself. -/
def escape (text : List Char) : List Char :=
  text.flatMap fun c => if special.contains c then ['\\', c] else [c]

/-- Written patterns as alternatives, the first one preferred. -/
def alternatives (sources : List (List Char)) : List Char := ['|'].intercalate sources

/-- A written pattern as a group that has to end where the text ends. -/
def anchoredSource (source : List Char) : List Char :=
  "(?:".toList ++ source ++ ")$".toList

end EditorLink.Pattern
