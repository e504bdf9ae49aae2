import ServiceDirectory.Json.Compact
import ServiceDirectory.Json.Value
import ServiceDirectory.Url.Parse

/-!
# URLs in JSON

A URL is the JSON string of its canonical string; a string that is no URL is refused
with the words of the refusal.
-/

namespace ServiceDirectory.Url

def toJson (u : Url) : String := String.ofList (Json.writeText u.fullString)

def read : Json.Reader Url := fun text => do
  let (raw, rest) ← Json.readText text
  match parse raw with
  | .ok u => return (u, rest)
  | .error reason => throw (.mismatch (.refused reason.message))

def ofJson (text : String) : Except Json.Fault Url := Json.readAll read text

end ServiceDirectory.Url
