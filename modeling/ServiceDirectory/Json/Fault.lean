import ServiceDirectory.Json.Position
import ServiceDirectory.Text.Quoted
import ServiceDirectory.Text.Shortest

/-!
# Why a JSON text is refused

A text is read once, from left to right, and the first fault ends the reading.  A
fault is that the text ends too early, that it is not JSON, or that it is JSON of
another shape than the one asked for.
-/

namespace ServiceDirectory.Json

/-- What stands where something else was expected. -/
inductive Found
  | null
  | boolean (value : Bool)
  | integer (value : Int)
  | floating (written : String)
  | text (value : String)
  | sequence
  | map
deriving DecidableEq, Repr

/-- How a text that is JSON so far misses the expected shape. -/
inductive Mismatch
  /-- A value of another type. -/
  | wrongType (found : Found) (expected : String)
  /-- A value of the right type that is out of range. -/
  | wrongValue (found : Found) (expected : String)
  /-- An array that ends before its element `length`, which is required, or that goes on
  behind the last element expected. -/
  | wrongLength (length : Nat) (expected : String)
  | missingField (field : String)
  | duplicateField (field : String)
  /-- A name that is none of the two alternatives. -/
  | unknownVariant (name first second : String)
  /-- A text that is refused for a reason of its own. -/
  | refused (message : String)
deriving DecidableEq, Repr

/-- The first fault of a text. -/
inductive Fault
  /-- The text ends before the value does. -/
  | ended
  /-- The text is not JSON, or goes on behind the value. -/
  | malformed
  /-- The text is JSON of another shape. -/
  | mismatch (reason : Mismatch)
deriving DecidableEq, Repr

def ticked (name : String) : String := "`" ++ name ++ "`"

def Found.describe : Found → String
  | .null => "null"
  | .boolean value => "boolean " ++ ticked (if value then "true" else "false")
  | .integer value => "integer " ++ ticked (toString value)
  | .floating written => "floating point " ++ ticked written
  | .text value => "string " ++ Text.quoted value
  | .sequence => "sequence"
  | .map => "map"

def Mismatch.message : Mismatch → String
  | .wrongType found expected =>
    "invalid type: " ++ found.describe ++ ", expected " ++ expected
  | .wrongValue found expected =>
    "invalid value: " ++ found.describe ++ ", expected " ++ expected
  | .wrongLength length expected =>
    "invalid length " ++ toString length ++ ", expected " ++ expected
  | .missingField field => "missing field " ++ ticked field
  | .duplicateField field => "duplicate field " ++ ticked field
  | .unknownVariant name first second =>
    "unknown variant " ++ ticked name ++ ", expected " ++ ticked first ++ " or " ++
      ticked second
  | .refused message => withoutPosition message

end ServiceDirectory.Json
