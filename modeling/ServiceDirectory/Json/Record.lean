import ServiceDirectory.Json.Value

/-!
# Records in JSON

A record is written as an object of named members in any order, or as an array of its
fields in declaration order.  Members with other names are skipped.  A field fills a
place in a draft; a field whose place is filled may not come again, and when the
object or array ends the draft is completed, or the first required field that is
missing is reported.  An array that goes on behind the last field is malformed; where
the text is known to be JSON, its length is reported instead.
-/

namespace ServiceDirectory.Json

/-- A field of a record, as it fills a draft. -/
structure RecordField (δ : Type) where
  name : String
  /-- Whether the draft must hold the field when the record ends. -/
  required : Bool
  filled : δ → Bool
  fill : δ → Reader δ

/-- A record type: its name, its fields in declaration order and its draft. -/
structure Record (δ α : Type) where
  name : String
  fields : List (RecordField δ)
  blank : δ
  /-- The value of a draft that holds all required fields. -/
  complete : δ → Option α

/-- The first required field that a draft lacks, with its place in the declaration. -/
def firstMissing {δ : Type} (draft : δ) : Nat → List (RecordField δ) → Option (Nat × String)
  | _, [] => none
  | index, field :: rest =>
    if field.required && !field.filled draft then some (index, field.name)
    else firstMissing draft (index + 1) rest

/-- What stands before the next part of an array or object. -/
inductive NextPart
  /-- The closing bracket, which has been taken. -/
  | close (rest : List Char)
  /-- Another part starts here. -/
  | part (rest : List Char)

/-- Looks for the next element of an array. -/
def nextElement (first : Bool) (text : List Char) : Except Fault NextPart :=
  match skipSpaces text with
  | [] => .error .ended
  | ']' :: rest => .ok (.close rest)
  | c :: rest =>
    if first then .ok (.part (c :: rest))
    else if c = ',' then
      match skipSpaces rest with
      | [] => .error .ended
      | ']' :: _ => .error .malformed
      | rest => .ok (.part rest)
    else .error .malformed

/-- Looks for the next member of an object; a member starts with its opening quote,
which is taken. -/
def nextMember (first : Bool) (text : List Char) : Except Fault NextPart :=
  let member (text : List Char) : Except Fault NextPart :=
    match text with
    | [] => .error .ended
    | '"' :: rest => .ok (.part rest)
    | _ => .error .malformed
  match skipSpaces text with
  | [] => .error .ended
  | '\x7d' :: rest => .ok (.close rest)
  | c :: rest =>
    if first then member (c :: rest)
    else if c = ',' then member (skipSpaces rest)
    else .error .malformed

/-- The end of an array whose last field has been read. -/
def endElements (text : List Char) : Except Fault (List Char) :=
  match skipSpaces text with
  | [] => .error .ended
  | ']' :: rest => .ok rest
  | _ => .error .malformed

/-- Reads the fields that an array holds; the flag tells whether it has been closed. -/
def readElements {δ : Type} : List (RecordField δ) → Bool → δ → Reader (δ × Bool)
  | [], _, draft, text => .ok ((draft, false), text)
  | field :: fields, first, draft, text => do
    match ← nextElement first text with
    | .close rest => return ((draft, true), rest)
    | .part rest =>
      let (draft, rest) ← field.fill draft rest
      readElements fields false draft rest

/-- Reads the members of an object into a draft; `fuel` bounds their number. -/
def readMembersWithin {δ : Type} (fields : List (RecordField δ)) : Nat → Bool → δ → Reader δ
  | 0, _, _, _ => .error .malformed
  | fuel + 1, first, draft, text => do
    match ← nextMember first text with
    | .close rest => return (draft, rest)
    | .part rest =>
      let (key, rest) ← readStringBody rest
      match fields.find? (·.name == key) with
      | none =>
        let rest ← skipColon rest
        let rest ← skipValue rest
        readMembersWithin fields fuel false draft rest
      | some field =>
        if field.filled draft then throw (.mismatch (.duplicateField key))
        let rest ← skipColon rest
        let (draft, rest) ← field.fill draft rest
        readMembersWithin fields fuel false draft rest

/-- The record's value, once no required field is missing. -/
def Record.finish {δ α : Type} (record : Record δ α) (draft : δ)
    (missing : Nat → String → Mismatch) : Except Fault α :=
  match firstMissing draft 0 record.fields with
  | some (index, name) => .error (.mismatch (missing index name))
  | none =>
    match record.complete draft with
    | some value => .ok value
    | none => .error .malformed

/-- Reads a record in either form. -/
def Record.read {δ α : Type} (record : Record δ α) : Reader α := fun text =>
  match skipSpaces text with
  | '[' :: rest => do
    let ((draft, closed), rest) ← readElements record.fields true record.blank rest
    let expected := "struct " ++ record.name ++ " with " ++
      toString record.fields.length ++ " elements"
    let value ← record.finish draft fun index _ => .wrongLength index expected
    if closed then return (value, rest) else return (value, ← endElements rest)
  | '\x7b' :: rest => do
    let (draft, rest) ← readMembersWithin record.fields (rest.length + 1) true record.blank rest
    let value ← record.finish draft fun _ name => .missingField name
    return (value, rest)
  | rest => .error (unexpected ("struct " ++ record.name) rest)

/-- The number of elements of an array whose opening bracket has been taken; `fuel` bounds
it. -/
def countElementsWithin : Nat → Bool → List Char → Except Fault Nat
  | 0, _, _ => .error .malformed
  | fuel + 1, first, text => do
    match ← nextElement first text with
    | .close _ => return 0
    | .part rest =>
      let rest ← skipValue rest
      return (← countElementsWithin fuel false rest) + 1

/-- Reads a record from a text that is known to be one JSON value.  Such a text cannot be
malformed, so an array with more elements than fields is refused for its length. -/
def Record.ofValue {δ α : Type} (record : Record δ α) (text : String) : Except Fault α :=
  match readAll record.read text with
  | .error .malformed =>
    match skipSpaces text.toList with
    | '[' :: rest => do
      let length ← countElementsWithin (rest.length + 1) true rest
      throw (.mismatch (.wrongLength length "fewer elements in array"))
    | _ => .error .malformed
  | answer => answer

/-- Reads the members of an object of texts; a key that comes again replaces the value.
`fuel` bounds the number of members. -/
def readTextMembersWithin : Nat → Bool → List (String × String) →
    Reader (List (String × String))
  | 0, _, _, _ => .error .malformed
  | fuel + 1, first, read, text => do
    match ← nextMember first text with
    | .close rest => return (read.reverse, rest)
    | .part rest =>
      let (key, rest) ← readStringBody rest
      let rest ← skipColon rest
      let (value, rest) ← readText rest
      readTextMembersWithin fuel false ((key, value) :: read) rest

/-- An object of texts, as its members in the order of the text. -/
def readTextMembers : Reader (List (String × String)) := fun text =>
  match skipSpaces text with
  | '\x7b' :: rest => readTextMembersWithin (rest.length + 1) true [] rest
  | rest => .error (unexpected "a map" rest)

end ServiceDirectory.Json
