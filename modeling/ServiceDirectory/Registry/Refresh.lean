import ServiceDirectory.Discovery.Query
import ServiceDirectory.Url.ServiceKey

/-!
# From instances to URLs

A subscription is answered with one URL per instance of the services to which its
interface was resolved.  A watcher computes the whole list anew when one of these
services changes, and gives nothing when one of them cannot be asked.
-/

namespace ServiceDirectory

variable {κ : Type}

/-- The URL of an instance, for a subscription: the protocol that the subscription asks
for, else its own, the instance's address, the subscribed interface as the path, and the
instance's metadata as the parameters. -/
def instanceUrl (subscribed : Url) (x : Instance) : Url :=
  x.metadata.entries.foldl (fun u entry => u.withParameter entry.1 entry.2)
    (Url.ofParts (subscribed.protocolFilter.getD subscribed.protocol) x.host (some x.port)
      subscribed.serviceInterface)

/-- The URLs of all instances of some services, service by service. -/
def instanceUrls (host : Host κ) (discovery : Discovery) (subscribed : Url) :
    List String → Call κ (List Url)
  | [] => return []
  | service :: rest => do
    let first ← discovery.instances host service
    return first.map (instanceUrl subscribed) ++ (← instanceUrls host discovery subscribed rest)

/-- Delivers the current list to the watcher's sink, unless the discovery is gone or
cannot be asked. -/
def Watcher.refresh (host : Host κ) (watcher : Watcher) (event : Event) :
    Run κ (Option Payload) := do
  let discovery := ((← get).registry watcher.registry).discovery
  let url := watcher.subscribed.fullString
  if ← host.enter (.discovery discovery) then
    let outcome ←
      match ← (instanceUrls host discovery watcher.subscribed watcher.services).run with
      | .ok urls => do
        note (.subscriptionRefreshed url event.source urls.length)
        host.deliver ⟨watcher.subscribed, watcher.sink, urls, watcher⟩
      | .error cause => do
        note (.refreshFailed url cause.message)
        pure none
    host.leave (.discovery discovery)
    return outcome
  else return none

end ServiceDirectory
