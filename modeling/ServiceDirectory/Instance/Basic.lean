import ServiceDirectory.SortedMap
import ServiceDirectory.Text.Decimal

/-!
# Service instances

A running instance of a service.  Its identity is the service name with host and port;
health, enablement, id and metadata are attributes that may change while the instance
stays the same.
-/

namespace ServiceDirectory

/-- One running instance of a service. -/
structure Instance where
  id : Option String
  service : String
  host : String
  port : UInt16
  enabled : Bool
  healthy : Bool
  metadata : SortedMap
deriving DecidableEq

namespace Instance

/-- An enabled, healthy instance without id and metadata. -/
def ofAddress (service host : String) (port : UInt16) : Instance where
  id := none
  service := service
  host := host
  port := port
  enabled := true
  healthy := true
  metadata := .empty

/-- What tells instances apart. -/
def identity (x : Instance) : String × String × UInt16 := (x.service, x.host, x.port)

def same (x y : Instance) : Bool := x.identity == y.identity

/-- The default id of an address. -/
def generateId (host : String) (port : UInt16) : String :=
  String.ofList (host.toList ++ ':' :: Text.decimal port.toNat)

def address (x : Instance) : String := generateId x.host x.port

/-- The instance with the default id of its address. -/
def withGeneratedId (x : Instance) : Instance := { x with id := some x.address }

def withHealthy (x : Instance) (healthy : Bool) : Instance := { x with healthy }

def withEnabled (x : Instance) (enabled : Bool) : Instance := { x with enabled }

def withMetadata (x : Instance) (key value : String) : Instance :=
  { x with metadata := x.metadata.insert key value }

@[simp]
theorem same_iff {x y : Instance} : x.same y = true ↔ x.identity = y.identity := by
  simp [same]

theorem same_refl (x : Instance) : x.same x = true := by simp

/-- The hash of an instance is that of its identity. -/
def identityHash (x : Instance) : UInt64 := hash x.identity

end Instance

end ServiceDirectory
