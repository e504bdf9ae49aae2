import ServiceDirectory.Json.Compact
import ServiceDirectory.Json.Record
import ServiceDirectory.Settings.Basic

/-!
# Settings documents

A settings document is a JSON record in which every field may be missing, at the top
and inside `logging`; a missing field has its default.
-/

namespace ServiceDirectory

open Json (RecordField Reader Record)

/-- The mode of a name. -/
def DispatchMode.ofName (name : String) : Except Json.Fault DispatchMode :=
  if name = DispatchMode.direct.name then .ok .direct
  else if name = DispatchMode.async.name then .ok .async
  else .error (.mismatch
    (.unknownVariant name DispatchMode.direct.name DispatchMode.async.name))

/-- A mode is the string of its name, or an object with the name as its only key and
`null` as its value. -/
def DispatchMode.read : Reader DispatchMode := fun text =>
  match Json.skipSpaces text with
  | [] => .error .ended
  | '"' :: rest => do
    let (name, rest) ← Json.readStringBody rest
    return (← ofName name, rest)
  | '\x7b' :: rest => do
    let (name, rest) ← Json.readKey rest
    let mode ← ofName name
    let rest ← Json.skipColon rest
    let ((), rest) ← Json.readUnit rest
    match Json.skipSpaces rest with
    | [] => throw .ended
    | '\x7d' :: rest => return (mode, rest)
    | _ => throw .malformed
  | _ => .error .malformed

namespace LogSettings

structure Draft where
  filter : Option String := none
  json : Option Bool := none

def fields : List (RecordField Draft) := [
  { name := "filter", required := false, filled := fun d => d.filter.isSome
    fill := fun d text => do
      let (filter, rest) ← Json.readText text
      return ({ d with filter := some filter }, rest) },
  { name := "json", required := false, filled := fun d => d.json.isSome
    fill := fun d text => do
      let (json, rest) ← Json.readBoolean text
      return ({ d with json := some json }, rest) }]

/-- The settings of a draft, with defaults for what is missing. -/
def Draft.settings (d : Draft) : LogSettings where
  filter := d.filter.getD ({} : LogSettings).filter
  json := d.json.getD ({} : LogSettings).json

def record : Record Draft LogSettings where
  name := "LoggingConfig"
  fields := fields
  blank := {}
  complete := fun d => some d.settings

def jsonChars (settings : LogSettings) : List Char :=
  Json.writeObject [
    ("filter", Json.writeText settings.filter),
    ("json", Json.writeBoolean settings.json)]

end LogSettings

namespace Settings

structure Draft where
  applicationName : Option String := none
  mappingGroup : Option String := none
  dispatchMode : Option DispatchMode := none
  logging : Option LogSettings := none

def fields : List (RecordField Draft) := [
  { name := "applicationName", required := false
    filled := fun d => d.applicationName.isSome
    fill := fun d text => do
      let (name, rest) ← Json.readText text
      return ({ d with applicationName := some name }, rest) },
  { name := "servicesMappingGroup", required := false
    filled := fun d => d.mappingGroup.isSome
    fill := fun d text => do
      let (group, rest) ← Json.readText text
      return ({ d with mappingGroup := some group }, rest) },
  { name := "dispatchMode", required := false
    filled := fun d => d.dispatchMode.isSome
    fill := fun d text => do
      let (mode, rest) ← DispatchMode.read text
      return ({ d with dispatchMode := some mode }, rest) },
  { name := "logging", required := false
    filled := fun d => d.logging.isSome
    fill := fun d text => do
      let (logging, rest) ← LogSettings.record.read text
      return ({ d with logging := some logging }, rest) }]

/-- The settings of a draft, with defaults for what is missing. -/
def Draft.settings (d : Draft) : Settings where
  applicationName := d.applicationName.getD ({} : Settings).applicationName
  mappingGroup := d.mappingGroup.getD ({} : Settings).mappingGroup
  dispatchMode := d.dispatchMode.getD ({} : Settings).dispatchMode
  logging := d.logging.getD ({} : Settings).logging

def record : Record Draft Settings where
  name := "RegistryConfig"
  fields := fields
  blank := {}
  complete := fun d => some d.settings

def ofJson (text : String) : Except Json.Fault Settings := Json.readAll record.read text

def toJson (settings : Settings) : String :=
  String.ofList (Json.writeObject [
    ("applicationName", Json.writeText settings.applicationName),
    ("servicesMappingGroup", Json.writeText settings.mappingGroup),
    ("dispatchMode", Json.writeText settings.dispatchMode.name),
    ("logging", settings.logging.jsonChars)])

end Settings

end ServiceDirectory
