import DashboardTools.Error
import DashboardTools.Json.Printer

/-!
# Tool results

A tool answers with texts and says whether they report an error. Values are answered as pretty
JSON, and errors as an object whose one field holds the message.
-/

namespace DashboardTools.Tool

open DashboardTools.Json

/-- What a tool call answers: whether it is an error, and the texts of its answer. -/
structure Result where
  isError : Bool
  content : List String
  deriving DecidableEq

/-- Answers a value, set out over several lines. -/
def Result.ofValue (value : Value) : Result := ⟨false, [value.pretty]⟩

/-- The object that reports an error, with the error's words as its only field. -/
def errorValue (error : Error) : Value := .object [("error", .string error.message)]

/-- Answers an error, as an object on one line. -/
def Result.ofError (error : Error) : Result := ⟨true, [(errorValue error).compact]⟩

/-- Answers the outcome of an operation, as a value or as an error. -/
def respond : Except Error Value → Result
  | .ok value => .ofValue value
  | .error error => .ofError error

/-- Answers the outcome of an operation without a value: a message that it was done, or the
error. -/
def acknowledge (outcome : Except Error Unit) (message : String) : Result :=
  respond (outcome.map fun _ =>
    .object [("message", .string message), ("success", .bool true)])

/-- Puts a warning into an object and leaves any other value as it is. -/
def withWarning (warning : String) : Value → Value
  | .object fields => .object (putField "WARNING" (.string warning) fields)
  | value => value

end DashboardTools.Tool
