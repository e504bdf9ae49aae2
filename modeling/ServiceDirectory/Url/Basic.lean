import ServiceDirectory.OrderedMap
import ServiceDirectory.Text.Decimal

/-!
# Endpoint URLs

A `Url` names one exported or subscribed endpoint:
`protocol://host[:port][/path][?key=value&…]`.  Parameters keep the order in which
their keys were first set, and `Url.fullString` writes them in that order, so two
URLs that differ only in parameter order are different endpoints.
-/

namespace ServiceDirectory

/-- An endpoint.  The path is kept without its leading slashes. -/
structure Url where
  protocol : String
  host : String
  port : Option UInt16
  path : String
  parameters : OrderedMap String String
deriving DecidableEq, Repr

namespace Url

/-- `path` without the slashes at its start. -/
def dropSlashes (path : List Char) : List Char := path.dropWhile (· == '/')

/-- The URL of an endpoint without parameters. -/
def ofParts (protocol host : String) (port : Option UInt16) (path : String) : Url where
  protocol := protocol
  host := host
  port := port
  path := String.ofList (dropSlashes path.toList)
  parameters := .empty

def parameter? (u : Url) (key : String) : Option String := u.parameters.get? key

/-- The URL with `key` set to `value`; a key that is already set keeps its place. -/
def withParameter (u : Url) (key value : String) : Url :=
  { u with parameters := u.parameters.insert key value }

def withoutParameter (u : Url) (key : String) : Url :=
  { u with parameters := u.parameters.erase key }

/-- The characters of `:port`, or nothing when no port is set. -/
def portChars : Option UInt16 → List Char
  | none => []
  | some port => ':' :: Text.decimal port.toNat

/-- The characters of `/path`, or nothing when the path is empty. -/
def pathChars (path : List Char) : List Char :=
  if path.isEmpty then [] else '/' :: path

/-- The characters of `key=value`. -/
def pairChars (pair : String × String) : List Char :=
  pair.1.toList ++ '=' :: pair.2.toList

/-- The characters of `?key=value&…`, or nothing when no parameter is set. -/
def queryChars : List (String × String) → List Char
  | [] => []
  | pair :: rest => '?' :: pairChars pair ++ rest.flatMap fun pair => '&' :: pairChars pair

/-- `host:port`, or `host` when no port is set. -/
def address (u : Url) : String := String.ofList (u.host.toList ++ portChars u.port)

def fullChars (u : Url) : List Char :=
  u.protocol.toList ++ [':', '/', '/'] ++ (u.host.toList ++ portChars u.port) ++
    pathChars u.path.toList ++ queryChars u.parameters.entries

/-- The canonical string, with every parameter in order. -/
def fullString (u : Url) : String := String.ofList u.fullChars

@[simp]
theorem toList_fullString (u : Url) : u.fullString.toList = u.fullChars := by
  simp [fullString]

end Url

/-- Equal URLs have equal canonical strings, so their hash is that of the string. -/
instance : Hashable Url := ⟨fun u => hash u.fullString⟩

end ServiceDirectory
