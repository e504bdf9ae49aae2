import ServiceDirectory.Text.Decimal

/-!
# Compact JSON text

Values are written without spaces.  In a string only the quote, the backslash and the
control characters below the space are escaped.
-/

namespace ServiceDirectory.Json

/-- The lower-case hexadecimal digit of a number below sixteen. -/
def hexChar (n : Nat) : Char := Nat.digitChar n

/-- One character of a string. -/
def stringChar (c : Char) : List Char :=
  if c = '"' then ['\\', '"']
  else if c = '\\' then ['\\', '\\']
  else if c = '\x08' then ['\\', 'b']
  else if c = '\t' then ['\\', 't']
  else if c = '\n' then ['\\', 'n']
  else if c = '\x0c' then ['\\', 'f']
  else if c = '\r' then ['\\', 'r']
  else if c.toNat < 0x20 then
    ['\\', 'u', '0', '0', hexChar (c.toNat / 16), hexChar (c.toNat % 16)]
  else [c]

def writeText (s : String) : List Char := '"' :: s.toList.flatMap stringChar ++ ['"']

def writeBoolean (b : Bool) : List Char :=
  if b then ['t', 'r', 'u', 'e'] else ['f', 'a', 'l', 's', 'e']

def writeNatural (n : Nat) : List Char := Text.decimal n

/-- A member: its key, a colon and its written value. -/
def writeMember (member : String × List Char) : List Char :=
  writeText member.1 ++ ':' :: member.2

/-- Members between braces, separated by commas. -/
def writeObject : List (String × List Char) → List Char
  | [] => ['\x7b', '\x7d']
  | member :: rest =>
    '\x7b' :: writeMember member ++ rest.flatMap (fun member => ',' :: writeMember member) ++
      ['\x7d']

end ServiceDirectory.Json
