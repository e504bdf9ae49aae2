import ServiceDirectory.Json.Reader

/-!
# Numbers in JSON

A number without fraction and exponent that fits a 64-bit word is an integer; every
other one, and `-0`, is a double.  A double is built from a 64-bit significand by one
multiplication or division with a power of ten, so it may miss the nearest double by
a little; digits that no longer fit the significand only move the point.
-/

namespace ServiceDirectory.Json

/-- The parts of a number behind its sign. -/
structure Numeral where
  whole : List Char
  fraction : Option (List Char)
  /-- Whether the exponent is positive, and its digits. -/
  exponent : Option (Bool × List Char)

inductive Number
  | integer (value : Int)
  | floating (value : Float)

def takeDigits (text : List Char) : List Char × List Char :=
  (text.takeWhile Char.isDigit, text.dropWhile Char.isDigit)

/-- One or more digits; `atEnd` is the fault of a text that ends before the first. -/
def readDigits (atEnd : Fault) (text : List Char) : Except Fault (List Char × List Char) :=
  match text with
  | [] => .error atEnd
  | c :: _ => if c.isDigit then .ok (takeDigits text) else .error .malformed

/-- The whole part: no digit follows a zero at its start. -/
def readWhole (atEnd : Fault) (text : List Char) : Except Fault (List Char × List Char) := do
  let (digits, rest) ← readDigits atEnd text
  match digits with
  | '0' :: _ :: _ => throw .malformed
  | _ => return (digits, rest)

/-- The fraction, if a point follows. -/
def readFraction (atEnd : Fault) (text : List Char) :
    Except Fault (Option (List Char) × List Char) :=
  match text with
  | '.' :: rest => do
    let (digits, rest) ← readDigits atEnd rest
    return (some digits, rest)
  | _ => .ok (none, text)

/-- The exponent, if its mark follows. -/
def readExponent (atEnd : Fault) (text : List Char) :
    Except Fault (Option (Bool × List Char) × List Char) :=
  match text with
  | [] => .ok (none, text)
  | c :: rest =>
    if c = 'e' ∨ c = 'E' then do
      let (positive, rest) := match rest with
        | '+' :: rest => (true, rest)
        | '-' :: rest => (false, rest)
        | _ => (true, rest)
      let (digits, rest) ← readDigits atEnd rest
      return (some (positive, digits), rest)
    else .ok (none, text)

/-- The parts of a number, its sign already taken. -/
def readNumeral (atEnd : Fault) (text : List Char) : Except Fault (Numeral × List Char) := do
  let (whole, rest) ← readWhole atEnd text
  let (fraction, rest) ← readFraction atEnd rest
  let (exponent, rest) ← readExponent atEnd rest
  return (⟨whole, fraction, exponent⟩, rest)

def maxWord : Nat := UInt64.size - 1

/-- Appends digits to a significand while it fits a word; gives the digits left over. -/
def absorb : Nat → List Char → Nat × List Char
  | significand, [] => (significand, [])
  | significand, c :: digits =>
    let next := significand * 10 + (c.toNat - '0'.toNat)
    if maxWord < next then (significand, c :: digits) else absorb next digits

/-- Scales a significand by a power of ten, or tells that the result is too large.
Below the smallest power of a table of 308 the division is done in steps. -/
def scale : Nat → Float → Int → Option Float
  | 0, f, _ => some f
  | steps + 1, f, exponent =>
    if exponent.natAbs ≤ 308 then
      let power := Float.ofScientific 1 false exponent.natAbs
      if 0 ≤ exponent then
        let scaled := f * power
        if scaled.isInf then none else some scaled
      else some (f / power)
    else if f == 0.0 then some f
    else if 0 ≤ exponent then none
    else scale steps (f / 1e308) (exponent + 308)

/-- The double of a numeral without its sign, if it is in range. -/
def Numeral.magnitude (n : Numeral) : Option Float :=
  let (whole, droppedWhole) := absorb 0 n.whole
  let fraction := n.fraction.getD []
  let (significand, droppedFraction) := absorb whole fraction
  let shift : Int :=
    droppedWhole.length - ((fraction.length : Int) - droppedFraction.length)
  let float := significand.toUInt64.toFloat
  match n.exponent with
  | none => scale 5 float shift
  | some (positive, digits) =>
    let exponent := Nat.ofDigitChars 10 digits 0
    if UInt32.size / 2 ≤ exponent then
      if significand ≠ 0 ∧ positive then none else some 0.0
    else scale 5 float (if positive then shift + exponent else shift - exponent)

/-- The value of a numeral behind its sign. -/
def Numeral.value (negative : Bool) (n : Numeral) : Except Fault Number :=
  let floating : Except Fault Number :=
    match n.magnitude with
    | none => .error .malformed
    | some f => .ok (.floating (if negative then -f else f))
  match n.fraction, n.exponent with
  | none, none =>
    let whole := Nat.ofDigitChars 10 n.whole 0
    if negative then
      if 1 ≤ whole ∧ whole ≤ UInt64.size / 2 then .ok (.integer (-whole)) else floating
    else if whole ≤ maxWord then .ok (.integer whole) else floating
  | _, _ => floating

/-- A number, its sign already taken. -/
def readNumber (negative : Bool) (text : List Char) : Except Fault (Number × List Char) := do
  let (numeral, rest) ← readNumeral .ended text
  return (← numeral.value negative, rest)

/-- The text behind a number whose sign has been taken.  A number that is skipped and
breaks off at the end of the text counts as malformed. -/
def skipNumber (text : List Char) : Except Fault (List Char) :=
  (readNumeral .malformed text).map Prod.snd

def Number.found : Number → Found
  | .integer value => .integer value
  | .floating value => .floating (Text.floatText value)

end ServiceDirectory.Json
