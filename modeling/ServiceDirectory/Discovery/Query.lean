import ServiceDirectory.Page
import ServiceDirectory.World.Host

/-!
# Asking a source

A composite asks its sources in order, puts the answers one behind the other, and fails
with the first failure.
-/

namespace ServiceDirectory.Discovery

variable {κ : Type}

def compositeName : String := "composite"

def name (w : World κ) : Discovery → String
  | memory id => (w.memory id).name
  | backed id => (w.source id).name
  | composite _ _ => compositeName

/-- The priority of a source; a composite leaves the choice to its parts. -/
def priority : Discovery → Int
  | composite _ _ => highestPriority
  | _ => defaultPriority

mutual

def instances (host : Host κ) (service : String) : Discovery → Call κ (List Instance)
  | memory id => do return ((← get).memory id).table.get service
  | backed id => do Call.ofResult (host.instances ((← get).source id).backend service)
  | composite _ sources => instancesOfAll host service sources

def instancesOfAll (host : Host κ) (service : String) :
    List Discovery → Call κ (List Instance)
  | [] => return []
  | source :: rest => do
    let first ← source.instances host service
    return first ++ (← instancesOfAll host service rest)

end

mutual

/-- The names of the known services, in any order. -/
def serviceNames (host : Host κ) : Discovery → Call κ (List String)
  | memory id => do return ((← get).memory id).table.services
  | backed id => do Call.ofResult (host.services ((← get).source id).backend)
  | composite _ sources => serviceNamesOfAll host sources

def serviceNamesOfAll (host : Host κ) : List Discovery → Call κ (List String)
  | [] => return []
  | source :: rest => do
    let first ← source.serviceNames host
    return first ++ (← serviceNamesOfAll host rest)

end

/-- The distinct names of the known services, in ascending order. -/
def services (host : Host κ) (d : Discovery) : Call κ (List String) := do
  return sortedNames (← d.serviceNames host)

/-- A window of the instances of a service.  With `healthyOnly` the window is cut first
and its unhealthy instances are dropped then. -/
def page (host : Host κ) (d : Discovery) (service : String) (offset size : UInt64)
    (healthyOnly : Bool) : Call κ (Page Instance) := do
  let window := Page.window (← d.instances host service) offset size
  return if healthyOnly then window.retain Instance.healthy else window

end ServiceDirectory.Discovery
