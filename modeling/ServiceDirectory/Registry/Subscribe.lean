import ServiceDirectory.Discovery.Observers
import ServiceDirectory.Metadata.Recording
import ServiceDirectory.Registry.Names
import ServiceDirectory.Settings.Basic
import ServiceDirectory.Url.Parse

/-!
# The registry

A provider's URL is recorded in the local metadata store and nowhere else.  A consumer
subscribes to an interface: the registry resolves it to services, watches these, and
delivers one URL per instance, now and after every change.  A subscription to the
metadata interface is answered once, from the local store.

The watchers are in place before the instances are asked for, so a change in between is
delivered again rather than lost.  When a watch or a query fails, the watchers of the
call are removed again.
-/

namespace ServiceDirectory.Registry

variable {κ : Type}

def create (url : Url) (group : String) (metadata : Ref .metadata) (discovery : Discovery)
    (configuration : Ref .configuration) : Run κ (Ref .registry) := do
  let id ← freshRef .registry
  modify fun w =>
    w.setRegistry id ⟨url, group, metadata, discovery, configuration, .empty⟩
  return id

/-- Whether a URL is to be registered: only those of providers are. -/
def shouldRegister (url : Url) : Run κ Bool := do
  unless url.isProvider do note (.registrationSkipped url.fullString)
  return url.isProvider

/-- Whether a URL subscribes to the metadata itself. -/
def isMetadataUrl (url : Url) : Bool := url.serviceInterface = metadataInterface

/-- Availability is a matter of the discovery; the registry has none of its own. -/
def isAvailable (_ : Registry) : Bool := false

/-- Records a provider's URL. -/
def register (id : Ref .registry) (url : Url) : Run κ Unit := do
  if ← shouldRegister url then
    let added ← MetadataStore.exportUrl ((← get).registry id).metadata url
    note (.registered url.fullString added)

/-- Forgets a provider's URL. -/
def unregister (id : Ref .registry) (url : Url) : Run κ Unit := do
  if ← shouldRegister url then
    let removed ← MetadataStore.unexportUrl ((← get).registry id).metadata url
    note (.deregistered url.fullString removed)

/-- The number of active subscriptions to a URL. -/
def subscriptionCount (w : World κ) (id : Ref .registry) (url : Url) : Nat :=
  (w.registry id).subscriptions.count url.fullString

def setSubscriptions (id : Ref .registry) (subscriptions : SubscriptionTable) : Run κ Unit :=
  modify fun w => w.setRegistry id { w.registry id with subscriptions }

/-- Removes a watcher from the given services. -/
def unwatch (discovery : Discovery) (services : List String) (watcher : Watcher) :
    Run κ Unit :=
  services.forM fun service => discovery.removeObserver service (.watcher watcher)

/-- Adds a watcher to services one by one.  On a failure it is removed from those that
have been tried, the failing one included. -/
def watchEach (host : Host κ) (discovery : Discovery) (watcher : Watcher) :
    (tried services : List String) → Act κ Unit
  | _, [] => return
  | tried, service :: rest => do
    (discovery.addObserver host service (.watcher watcher)).orUndo
      (unwatch discovery (tried ++ [service]) watcher)
    watchEach host discovery watcher (tried ++ [service]) rest

/-- Ends the subscriptions of a sink to a URL. -/
def dropSubscription (id : Ref .registry) (url : Url) (sink : Ref .sink) : Run κ Unit := do
  let registry := (← get).registry id
  let (removed, kept) := registry.subscriptions.take url.fullString sink
  setSubscriptions id kept
  removed.forM fun s => unwatch registry.discovery s.services s.watcher

/-- The URLs in a list of canonical strings, up to the first that is none. -/
def parseAll : List String → Except UrlError (List Url)
  | [] => .ok []
  | text :: rest => do
    let url ← Url.parse text
    return url :: (← parseAll rest)

/-- Delivers the matching URLs of the local store. -/
def deliverMetadata (host : Host κ) (id : Ref .registry) (url : Url) (sink : Ref .sink) :
    Act κ Unit := do
  let w ← get
  let exported := (w.store (w.registry id).metadata).exportedByProtocol url.serviceInterface
    url.group url.version (url.parameter? Url.protocolKey)
  match parseAll exported with
  | .error reason => throw (.failed (.malformedUrl reason))
  | .ok urls =>
    Act.ofRun (note (.metadataDelivered url.fullString urls.length))
    Act.ofReaction (host.deliver ⟨url, sink, urls, none⟩)

/-- Watches the services of an interface and collects the first list. -/
def watchAndCollect (host : Host κ) (id : Ref .registry) (url : Url) (sink : Ref .sink) :
    Act κ (Watcher × List Url) := do
  let services ← Act.ofCall (serviceNames host id url.serviceInterface)
  let discovery := ((← get).registry id).discovery
  let watcher : Watcher := ⟨← Act.ofRun freshSerial, id, url, services, sink⟩
  watchEach host discovery watcher [] services
  let urls ← (Act.ofCall (instanceUrls host discovery url services)).orUndo
    (unwatch discovery services watcher)
  return (watcher, urls)

/-- Delivers the current list and keeps it fresh from then on. -/
def deliverInstances (host : Host κ) (id : Ref .registry) (url : Url) (sink : Ref .sink) :
    Act κ Unit := do
  let (watcher, urls) ← watchAndCollect host id url sink
  Act.ofRun <| note (.instancesDelivered url.fullString watcher.services urls.length)
  Act.ofReaction (host.deliver ⟨url, sink, urls, watcher⟩)
  let subscriptions := ((← get).registry id).subscriptions
  Act.ofRun (setSubscriptions id (subscriptions.add url.fullString ⟨sink, watcher⟩))

/-- Subscribes a sink to a URL; a subscription that the sink has to it is replaced. -/
def subscribe (host : Host κ) (id : Ref .registry) (url : Url) (sink : Ref .sink) :
    Act κ Unit := do
  if isMetadataUrl url then deliverMetadata host id url sink
  else
    Act.ofRun (dropSubscription id url sink)
    deliverInstances host id url sink
  discard (Act.ofRun (MetadataStore.subscribeUrl ((← get).registry id).metadata url))

/-- Ends the subscription of a sink to a URL and forgets that the URL was subscribed. -/
def unsubscribe (id : Ref .registry) (url : Url) (sink : Ref .sink) : Run κ Unit := do
  dropSubscription id url sink
  if ← MetadataStore.unsubscribeUrl ((← get).registry id).metadata url then
    note (.subscriptionForgotten url.fullString)

end ServiceDirectory.Registry
