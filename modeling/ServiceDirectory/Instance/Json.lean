import ServiceDirectory.Instance.Basic
import ServiceDirectory.Json.Compact
import ServiceDirectory.Json.Record

/-!
# Instances in JSON

An instance is written with its fields in declaration order; an absent id is left out.
When one is read, the id may be missing or `null`, enablement and health default to
true and the metadata to none.
-/

namespace ServiceDirectory.Instance

open Json (RecordField Record)

def toJson (x : Instance) : String :=
  let id := match x.id with
    | none => []
    | some id => [("id", Json.writeText id)]
  let metadata := x.metadata.entries.map fun entry => (entry.1, Json.writeText entry.2)
  String.ofList (Json.writeObject (id ++ [
    ("serviceName", Json.writeText x.service),
    ("host", Json.writeText x.host),
    ("port", Json.writeNatural x.port.toNat),
    ("enabled", Json.writeBoolean x.enabled),
    ("healthy", Json.writeBoolean x.healthy),
    ("metadata", Json.writeObject metadata)]))

structure Draft where
  id : Option (Option String) := none
  service : Option String := none
  host : Option String := none
  port : Option UInt16 := none
  enabled : Option Bool := none
  healthy : Option Bool := none
  metadata : Option SortedMap := none

/-- The fields of an instance in declaration order. -/
def fields : List (RecordField Draft) := [
  { name := "id", required := false, filled := fun d => d.id.isSome
    fill := fun d text => do
      let (id, rest) ← Json.readOptionalText text
      return ({ d with id := some id }, rest) },
  { name := "serviceName", required := true, filled := fun d => d.service.isSome
    fill := fun d text => do
      let (service, rest) ← Json.readText text
      return ({ d with service := some service }, rest) },
  { name := "host", required := true, filled := fun d => d.host.isSome
    fill := fun d text => do
      let (host, rest) ← Json.readText text
      return ({ d with host := some host }, rest) },
  { name := "port", required := true, filled := fun d => d.port.isSome
    fill := fun d text => do
      let (port, rest) ← Json.readWord text
      return ({ d with port := some port }, rest) },
  { name := "enabled", required := false, filled := fun d => d.enabled.isSome
    fill := fun d text => do
      let (enabled, rest) ← Json.readBoolean text
      return ({ d with enabled := some enabled }, rest) },
  { name := "healthy", required := false, filled := fun d => d.healthy.isSome
    fill := fun d text => do
      let (healthy, rest) ← Json.readBoolean text
      return ({ d with healthy := some healthy }, rest) },
  { name := "metadata", required := false, filled := fun d => d.metadata.isSome
    fill := fun d text => do
      let (members, rest) ← Json.readTextMembers text
      return ({ d with metadata := some (.ofList members) }, rest) }]

/-- The instance of a draft; what is not required has a default. -/
def Draft.complete (d : Draft) : Option Instance := do
  let service ← d.service
  let host ← d.host
  let port ← d.port
  return {
    id := d.id.getD none
    service := service
    host := host
    port := port
    enabled := d.enabled.getD true
    healthy := d.healthy.getD true
    metadata := d.metadata.getD .empty }

def record : Record Draft Instance where
  name := "ServiceInstance"
  fields := fields
  blank := {}
  complete := Draft.complete

def ofJson (text : String) : Except Json.Fault Instance := Json.readAll record.read text

/-- Reads an instance from a part of a document, which is known to be JSON. -/
def ofJsonValue (text : String) : Except Json.Fault Instance := record.ofValue text

end ServiceDirectory.Instance
