import ServiceDirectory.Json.Fault

/-!
# Reading JSON from left to right

A reader takes characters off the front of a text and gives what it read together
with the rest, or the first fault.  This module holds the readers of punctuation,
literals and strings.
-/

namespace ServiceDirectory.Json

/-- Takes a value off the front of a text. -/
abbrev Reader (α : Type) := List Char → Except Fault (α × List Char)

/-- The four characters that may stand between the parts of a JSON text. -/
def isSpace (c : Char) : Bool := c == ' ' || c == '\n' || c == '\t' || c == '\r'

/-- The text behind the spaces at its front. -/
def skipSpaces (text : List Char) : List Char := text.dropWhile isSpace

/-- The text behind a word whose first character has been taken. -/
def skipWord : (word text : List Char) → Except Fault (List Char)
  | [], text => .ok text
  | _ :: _, [] => .error .ended
  | w :: word, c :: text => if w = c then skipWord word text else .error .malformed

/-- The text behind the colon of a member. -/
def skipColon (text : List Char) : Except Fault (List Char) :=
  match skipSpaces text with
  | [] => .error .ended
  | ':' :: rest => .ok rest
  | _ => .error .malformed

def hexDigit (c : Char) : Option Nat :=
  let n := c.toNat
  if 48 ≤ n ∧ n ≤ 57 then some (n - 48)
  else if 65 ≤ n ∧ n ≤ 70 then some (n - 55)
  else if 97 ≤ n ∧ n ≤ 102 then some (n - 87)
  else none

def hexValue (a b c d : Char) : Option Nat := do
  let a ← hexDigit a
  let b ← hexDigit b
  let c ← hexDigit c
  let d ← hexDigit d
  return ((a * 16 + b) * 16 + c) * 16 + d

def utf8Length (text : List Char) : Nat := text.foldr (fun c n => c.utf8Size + n) 0

/-- The four hexadecimal digits of an escape.  A text of fewer than four more bytes
ends too early, whatever they are. -/
def readHex (text : List Char) : Except Fault (Nat × List Char) :=
  if utf8Length (text.take 4) < 4 then .error .ended
  else
    match text with
    | a :: b :: c :: d :: rest =>
      match hexValue a b c d with
      | some n => .ok (n, rest)
      | none => .error .malformed
    | _ => .error .malformed

/-- The character that a one-letter escape stands for. -/
def simpleEscape (c : Char) : Option Char :=
  if c = '"' ∨ c = '\\' ∨ c = '/' then some c
  else if c = 'b' then some '\x08'
  else if c = 'f' then some '\x0c'
  else if c = 'n' then some '\n'
  else if c = 'r' then some '\r'
  else if c = 't' then some '\t'
  else none

/-- The second half of a pair of surrogate escapes. -/
def readTrailing (leading : Nat) : List Char → Except Fault (Char × List Char)
  | [] => .error .ended
  | '\\' :: [] => .error .ended
  | '\\' :: 'u' :: text => do
    let (trailing, rest) ← readHex text
    if 0xDC00 ≤ trailing ∧ trailing ≤ 0xDFFF then
      return (Char.ofNat ((leading - 0xD800) * 0x400 + (trailing - 0xDC00) + 0x10000), rest)
    else throw .malformed
  | _ => .error .malformed

/-- The character of an escape, its backslash already taken. -/
def readEscape : List Char → Except Fault (Char × List Char)
  | [] => .error .ended
  | 'u' :: text => do
    let (unit, rest) ← readHex text
    if 0xDC00 ≤ unit ∧ unit ≤ 0xDFFF then throw .malformed
    else if 0xD800 ≤ unit ∧ unit ≤ 0xDBFF then readTrailing unit rest
    else return (Char.ofNat unit, rest)
  | c :: rest =>
    match simpleEscape c with
    | some d => .ok (d, rest)
    | none => .error .malformed

/-- The text behind an escape, its backslash already taken; the digits of a `\u`
escape may name any unit. -/
def skipEscape : List Char → Except Fault (List Char)
  | [] => .error .ended
  | 'u' :: text => (readHex text).map Prod.snd
  | c :: rest => if (simpleEscape c).isSome then .ok rest else .error .malformed

/-- The characters up to the closing quote; `fuel` bounds the length of the text. -/
def readCharsWithin : Nat → List Char → Except Fault (List Char × List Char)
  | 0, _ => .error .ended
  | _ + 1, [] => .error .ended
  | fuel + 1, c :: text =>
    if c = '"' then .ok ([], text)
    else if c = '\\' then do
      let (d, rest) ← readEscape text
      let (chars, rest) ← readCharsWithin fuel rest
      return (d :: chars, rest)
    else if c.toNat < 0x20 then .error .malformed
    else do
      let (chars, rest) ← readCharsWithin fuel text
      return (c :: chars, rest)

/-- The string whose opening quote has been taken. -/
def readStringBody (text : List Char) : Except Fault (String × List Char) := do
  let (chars, rest) ← readCharsWithin (text.length + 1) text
  return (String.ofList chars, rest)

/-- The key of a member, which can only be a string. -/
def readKey : Reader String := fun text =>
  match skipSpaces text with
  | [] => .error .ended
  | '"' :: rest => readStringBody rest
  | _ => .error .malformed

/-- The text behind a closing quote; `fuel` bounds the length of the text. -/
def skipCharsWithin : Nat → List Char → Except Fault (List Char)
  | 0, _ => .error .ended
  | _ + 1, [] => .error .ended
  | fuel + 1, c :: text =>
    if c = '"' then .ok text
    else if c = '\\' then do
      let rest ← skipEscape text
      skipCharsWithin fuel rest
    else if c.toNat < 0x20 then .error .malformed
    else skipCharsWithin fuel text

/-- The text behind a string whose opening quote has been taken. -/
def skipStringBody (text : List Char) : Except Fault (List Char) :=
  skipCharsWithin (text.length + 1) text

end ServiceDirectory.Json
