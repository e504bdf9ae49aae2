import ServiceDirectory.Text.Decimal
import ServiceDirectory.Text.Split

/-!
# Positions in messages

A fault is reported with its position behind its message.  A message that brings a
position of its own at its end, such as ` at line 3 column 14`, has that one taken for the
position of the fault, and only the text before it is the message.
-/

namespace ServiceDirectory.Json

/-- Takes a 64-bit numeral off the end of a text; both texts are given backwards. -/
def dropNumeral (backwards : List Char) : Option (List Char) := do
  let digits := backwards.takeWhile Char.isDigit
  let value ← Text.readDecimal digits.reverse
  if value < UInt64.size then some (backwards.drop digits.length) else none

/-- The message before a position at its end. -/
def withoutPosition (message : String) : String :=
  let before := do
    let rest ← dropNumeral message.toList.reverse
    let rest ← Text.dropMark " column ".toList.reverse rest
    let rest ← dropNumeral rest
    Text.dropMark " at line ".toList.reverse rest
  (before.map fun backwards => String.ofList backwards.reverse).getD message

end ServiceDirectory.Json
