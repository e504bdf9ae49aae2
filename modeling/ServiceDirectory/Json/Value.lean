import ServiceDirectory.Json.Number

/-!
# Values that are skipped and values that do not fit

A member that nobody asked for is skipped whatever JSON it holds, at any depth.  A
value of the wrong type is described: a scalar has to be read for that, an array or
object is recognised by its bracket.
-/

namespace ServiceDirectory.Json

/-- What a skipping run has to do next. -/
inductive SkipTask
  | value
  /-- Skip the elements of an array; `first` tells whether none has been seen. -/
  | elements (first : Bool)
  /-- Skip the members of an object; `first` tells whether none has been seen. -/
  | members (first : Bool)

/-- Skips what the task names; `fuel` bounds the number of nested tasks. -/
def skipWithin : Nat → SkipTask → List Char → Except Fault (List Char)
  | 0, _, _ => .error .malformed
  | fuel + 1, .value, text =>
    match skipSpaces text with
    | [] => .error .ended
    | c :: rest =>
      if c = 'n' then skipWord ['u', 'l', 'l'] rest
      else if c = 't' then skipWord ['r', 'u', 'e'] rest
      else if c = 'f' then skipWord ['a', 'l', 's', 'e'] rest
      else if c = '-' then skipNumber rest
      else if c.isDigit then skipNumber (c :: rest)
      else if c = '"' then skipStringBody rest
      else if c = '[' then skipWithin fuel (.elements true) rest
      else if c = '\x7b' then skipWithin fuel (.members true) rest
      else .error .malformed
  | fuel + 1, .elements first, text =>
    match skipSpaces text with
    | [] => .error .ended
    | ']' :: rest => .ok rest
    | c :: rest =>
      if first then do
        let rest ← skipWithin fuel .value (c :: rest)
        skipWithin fuel (.elements false) rest
      else if c = ',' then do
        let rest ← skipWithin fuel .value rest
        skipWithin fuel (.elements false) rest
      else .error .malformed
  | fuel + 1, .members first, text => do
    let member (text : List Char) : Except Fault (List Char) :=
      match skipSpaces text with
      | [] => .error .ended
      | '"' :: rest => do
        let rest ← skipStringBody rest
        let rest ← skipColon rest
        let rest ← skipWithin fuel .value rest
        skipWithin fuel (.members false) rest
      | _ => .error .malformed
    match skipSpaces text with
    | [] => .error .ended
    | '\x7d' :: rest => .ok rest
    | c :: rest =>
      if first then member (c :: rest)
      else if c = ',' then member rest
      else .error .malformed

/-- The text behind one value.  Every second task takes a character off the text. -/
def skipValue (text : List Char) : Except Fault (List Char) :=
  skipWithin (2 * text.length + 2) .value text

/-- The fault of a text whose next value is not of the expected type.  The text starts
with the first character of the value. -/
def unexpected (expected : String) : List Char → Fault
  | [] => .ended
  | c :: rest =>
    let wrongType (found : Found) : Fault := .mismatch (.wrongType found expected)
    let afterWord (result : Except Fault (List Char)) (found : Found) : Fault :=
      match result with
      | .ok _ => wrongType found
      | .error fault => fault
    let afterNumber (result : Except Fault (Number × List Char)) : Fault :=
      match result with
      | .ok (number, _) => wrongType number.found
      | .error fault => fault
    if c = 'n' then afterWord (skipWord ['u', 'l', 'l'] rest) .null
    else if c = 't' then afterWord (skipWord ['r', 'u', 'e'] rest) (.boolean true)
    else if c = 'f' then afterWord (skipWord ['a', 'l', 's', 'e'] rest) (.boolean false)
    else if c = '-' then afterNumber (readNumber true rest)
    else if c.isDigit then afterNumber (readNumber false (c :: rest))
    else if c = '"' then
      match readStringBody rest with
      | .ok (value, _) => wrongType (.text value)
      | .error fault => fault
    else if c = '[' then wrongType .sequence
    else if c = '\x7b' then wrongType .map
    else .malformed

def readText : Reader String := fun text =>
  match skipSpaces text with
  | '"' :: rest => readStringBody rest
  | rest => .error (unexpected "a string" rest)

def readOptionalText : Reader (Option String) := fun text =>
  match skipSpaces text with
  | 'n' :: rest => do return (none, ← skipWord ['u', 'l', 'l'] rest)
  | rest => do
    let (value, rest) ← readText rest
    return (some value, rest)

def readBoolean : Reader Bool := fun text =>
  match skipSpaces text with
  | 't' :: rest => do return (true, ← skipWord ['r', 'u', 'e'] rest)
  | 'f' :: rest => do return (false, ← skipWord ['a', 'l', 's', 'e'] rest)
  | rest => .error (unexpected "a boolean" rest)

/-- A number that is an integer of sixteen bits. -/
def Number.toWord : Number → Except Fault UInt16
  | .integer value =>
    if 0 ≤ value ∧ value < 65536 then .ok value.toNat.toUInt16
    else .error (.mismatch (.wrongValue (.integer value) "u16"))
  | number => .error (.mismatch (.wrongType number.found "u16"))

def readWord : Reader UInt16 := fun text =>
  match skipSpaces text with
  | [] => .error .ended
  | c :: rest =>
    if c = '-' then do
      let (number, rest) ← readNumber true rest
      return (← number.toWord, rest)
    else if c.isDigit then do
      let (number, rest) ← readNumber false (c :: rest)
      return (← number.toWord, rest)
    else .error (unexpected "u16" (c :: rest))

def readUnit : Reader Unit := fun text =>
  match skipSpaces text with
  | 'n' :: rest => do return ((), ← skipWord ['u', 'l', 'l'] rest)
  | rest => .error (unexpected "unit" rest)

/-- The whole text is one value, with spaces around it at most. -/
def readAll {α : Type} (reader : Reader α) (text : String) : Except Fault α := do
  let (value, rest) ← reader text.toList
  if (skipSpaces rest).isEmpty then return value else throw .malformed

end ServiceDirectory.Json
