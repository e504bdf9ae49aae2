import ServiceDirectory.Text.Printable

/-!
# Quoted text

The diagnostic form of a text: between double quotes, with a backslash escape for
every character that would be ambiguous or invisible there.  A list of texts is
written between brackets.
-/

namespace ServiceDirectory.Text

/-- The code point of `c` in lower-case hexadecimal digits, between braces. -/
def unicodeEscape (c : Char) : List Char :=
  ['\\', 'u', '\x7b'] ++ Nat.toDigits 16 c.toNat ++ ['\x7d']

/-- One character of a quoted text. -/
def quotedChar (c : Char) : List Char :=
  if c = '\x00' then ['\\', '0']
  else if c = '\t' then ['\\', 't']
  else if c = '\r' then ['\\', 'r']
  else if c = '\n' then ['\\', 'n']
  else if c = '"' then ['\\', '"']
  else if c = '\\' then ['\\', '\\']
  else if isPrintable c then [c]
  else unicodeEscape c

/-- The text between quotes, every character written by `quotedChar`. -/
def quoted (s : String) : String :=
  String.ofList ('"' :: s.toList.flatMap quotedChar ++ ['"'])

/-- Quoted texts between brackets, separated by a comma and a space. -/
def quotedList (texts : List String) : String :=
  "[" ++ ", ".intercalate (texts.map quoted) ++ "]"

/-- A quote is written behind a backslash, a combining accent by its code point. -/
example : quoted "8\"e\u0301" = "\"8\\\"e\\u\x7b301\x7d\"" := by decide +kernel

end ServiceDirectory.Text
