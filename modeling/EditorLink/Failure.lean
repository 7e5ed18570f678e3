import EditorLink.Number.Notation
import EditorLink.Text.Quoted
/-!
# Causes of failure

Everything that can stop an operation on a document or a session, each with the
facts that its message tells. A failure that comes from outside, from the server,
the transport or the host, is carried with its own kind and message.
-/
namespace EditorLink

/-- Why an operation stopped. -/
inductive Failure where
  /-- A line number outside a document whose last line is `last`. -/
  | lineOutOfRange (line : Int) (last : Nat)
  /-- An offset outside a document of the given length. -/
  | offsetOutOfRange (offset : Int) (length : Nat)
  /-- A position whose line number cannot be sent. -/
  | unsendableLine (line : Int)
  /-- A position whose character number cannot be sent. -/
  | unsendableCharacter (character : Int)
  /-- The server did not answer in time. -/
  | timedOut (method : String) (seconds : Double)
  /-- A message of a method that the session does not know. -/
  | unknownMethod (method : String)
  /-- Parameters of another shape than the method takes. -/
  | mismatchedParams (method expected actual : String)
  /-- A handshake was asked for after the session was closed. -/
  | closedSession
  /-- The server finds nothing to rename at a position. -/
  | nothingToRename
  /-- A completion pattern that is not well formed. -/
  | malformedPattern
  /-- A completion pattern that repeats something too often. -/
  | overlongPattern
  /-- Markup whose value is not a text. -/
  | malformedMarkup
  /-- An answer that cannot be read. -/
  | unreadableAnswer (method : String)
  /-- A buffer that the session does not have. -/
  | unknownBuffer (name : String)
  /-- A question for the configuration whose items cannot be counted. -/
  | uncountableItems
  /-- Nobody says for how long to wait. -/
  | unmeasuredWait
  /-- The transport cannot send any more. -/
  | brokenPipe
  /-- A failure of the server, the transport or the host. -/
  | reported (kind message : String)

namespace Failure

/-- The largest line or character number that a position may carry. -/
def maxCoordinate : Nat := 2147483647

/-- What a failure says. -/
def message : Failure → String
  | lineOutOfRange line last => s!"Line {line} out of range (0-{last})"
  | offsetOutOfRange offset length => s!"Offset {offset} out of range (0-{length})"
  | unsendableLine line =>
    s!"Position.line should be in range [0:{maxCoordinate}], but was {line}."
  | unsendableCharacter character =>
    s!"Position.character should be in range [0:{maxCoordinate}], but was {character}."
  | timedOut method seconds =>
    "Request " ++ String.ofList (Text.quoted method.toList) ++ " timed out after " ++
      String.ofList (Number.sixDigits seconds) ++ "s"
  | unknownMethod method => "Unknown LSP method: " ++ method
  | mismatchedParams method expected actual =>
    method ++ " expects " ++ expected ++ ", got " ++ actual
  | closedSession => "Cannot initialize a closed session"
  | nothingToRename => "No symbol to rename at this position"
  | malformedPattern => "Malformed completion pattern"
  | overlongPattern => "the repetition number is too large"
  | malformedMarkup => "Markup without a text"
  | unreadableAnswer method => "Unreadable answer to " ++ method
  | unknownBuffer name => "Unknown buffer: " ++ name
  | uncountableItems => "object of type 'builtin_function_or_method' has no len()"
  | unmeasuredWait => "'<=' not supported between instances of 'list' and 'int'"
  | brokenPipe => "broken pipe"
  | reported _ text => text

end Failure
end EditorLink
