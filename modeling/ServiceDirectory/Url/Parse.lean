import ServiceDirectory.Text.Blank
import ServiceDirectory.Text.Split
import ServiceDirectory.Url.Basic
import ServiceDirectory.Url.Error

/-!
# Reading a URL

The text is trimmed and cut, in this order, at the first `://`, at the first `?` of
the rest, at the first `/` before that, and at the last `:` of the authority.  The
query is cut at every `&` and each pair at its first `=`.
-/

namespace ServiceDirectory.Url

/-- The mark that ends the protocol. -/
def protocolMark : List Char := [':', '/', '/']

/-- A port number: digits, perhaps behind a plus sign, of value at most 65535. -/
def readPort (s : List Char) : Option UInt16 :=
  let digits := match s with
    | '+' :: rest => rest
    | _ => s
  match Text.readDecimal digits with
  | some n => if n < 65536 then some n.toUInt16 else none
  | none => none

/-- Host and port of an authority, or the text that should have been a port. -/
def readAuthority (authority : List Char) :
    Except (List Char) (List Char × Option UInt16) :=
  match Text.cutLast ':' authority with
  | none => .ok (authority, none)
  | some (host, port) =>
    match readPort port with
    | some n => .ok (host, some n)
    | none => .error port

/-- Key and value of a pair; a bare key has the empty value. -/
def readPair (pair : List Char) : List Char × List Char :=
  (Text.cutFirst '=' pair).getD (pair, [])

/-- The pairs of a query with a non-empty key, in order. -/
def readQuery (query : List Char) : List (String × String) :=
  ((Text.pieces '&' query).map readPair).filterMap fun (key, value) =>
    if key.isEmpty then none else some (String.ofList key, String.ofList value)

/-- The URL in a text that is already trimmed. -/
def readTrimmed (text : List Char) : Except UrlError Url :=
  if text.isEmpty then .error .empty
  else
    match Text.cutFirstMark protocolMark text with
    | none => .error (.missingProtocol (String.ofList text))
    | some ([], _) => .error (.missingProtocol (String.ofList text))
    | some (protocol, rest) =>
      let (location, query) := (Text.cutFirst '?' rest).getD (rest, [])
      let (authority, path) := (Text.cutFirst '/' location).getD (location, [])
      match readAuthority authority with
      | .error port => .error (.invalidPort (String.ofList text) (String.ofList port))
      | .ok (host, port) =>
        let bare := ofParts (String.ofList protocol) (String.ofList host) port
          (String.ofList path)
        .ok { bare with parameters := .ofList (readQuery query) }

/-- Reads a URL.  A repeated key keeps its first place and its last value. -/
def parse (text : String) : Except UrlError Url :=
  readTrimmed (Text.trim text.toList)

end ServiceDirectory.Url
