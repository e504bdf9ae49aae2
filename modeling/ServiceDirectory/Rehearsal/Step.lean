import ServiceDirectory.Event.Basic
import ServiceDirectory.Json.Fault
import ServiceDirectory.Page
import ServiceDirectory.Url.Basic
import ServiceDirectory.World.Failure
import ServiceDirectory.World.Notice

/-!
# Rehearsals

A rehearsal puts the library to work with stand-ins for its collaborators.  It is a list
of steps; each step makes an object under a name or calls one that has been made.  The
stand-ins follow scripts, which are steps again.
-/

namespace ServiceDirectory.Rehearsal

/-- Why a step is refused before anything is called. -/
inductive Refusal
  | url (reason : UrlError)
  | subject (fault : Json.Fault)
  | settings (fault : Json.Fault)
deriving DecidableEq, Repr

/-- How the dispatcher of a step runs its tasks. -/
inductive ExecutionMode
  /-- Within the dispatching call. -/
  | direct
  /-- In a queue, until a step runs them. -/
  | queued
  /-- In the pool of a runtime, one by one at the end of the step. -/
  | pooled
  /-- As a settings document says, with or without a runtime at hand. -/
  | configured (document : String) (runtime : Bool)
deriving DecidableEq, Repr

/-- Where a metadata store gets its name. -/
inductive StoreName
  | given (name : String)
  | configured (document : String)
deriving DecidableEq, Repr

/-- What a new registry is made of. -/
structure RegistryPlan where
  url : Url
  metadata : String
  discovery : String
  configuration : String
  /-- A settings document that gives the mapping group. -/
  document : Option String
  /-- The mapping group, which wins over the document's. -/
  group : Option String
deriving DecidableEq, Repr

/-- One step of a rehearsal.  Most steps name the object they work on first. -/
inductive Step
  /-- A step with an invalid argument, which is refused. -/
  | refused (refusal : Refusal)
  | newListener (name : String) (kind : Option EventKind) (priority : Option Int)
      (closure : Bool) (actions : List Step) (times : Nat) (panic : Option Payload)
  | setListener (listener : String) (kind : Option (Option EventKind))
      (priority : Option Int)
  | newSink (name : String) (actions : List Step) (times : Nat) (panic : Option Payload)
  | newBackend (name : String) (fail : List String) (onWatch : List Step) (plain : Bool)
  | failBackend (backend : String) (fail : List String)
  | fire (backend service : String)
  | newConfiguration (name : String) (fail : List String)
  | failConfiguration (configuration : String) (fail : List String)
  | drop (name : String)
  | newDispatcher (name : String) (mode : ExecutionMode)
  | addListener (dispatcher listener : String)
  | removeListener (dispatcher listener : String)
  | addListeners (dispatcher : String) (listeners : List String)
  | removeListeners (dispatcher : String) (listeners : List String)
  | removeAll (dispatcher : String)
  | listeners (dispatcher : String)
  | listenerCount (dispatcher : String) (kind : EventKind)
  | dispatch (dispatcher : String) (event : Event)
  | execute (dispatcher tag : String)
  | runTasks (dispatcher : String) (limit : Nat)
  | describe (object : String)
  | invoke (listener : String) (event : Event)
  | sameListener (first second : String)
  | newNotifier (name : String)
  | observe (notifier service listener : String)
  | unobserve (notifier service listener : String)
  | unobserveAll (notifier service : String)
  | notify (notifier source service : String) (instances : List Instance)
  | observerCount (notifier service : String)
  | newMemory (name source : String) (notifier : Option String)
  | newBacked (name source backend dispatcher : String) (notifier : Option String)
  | newComposite (name : String) (sources : List String)
  | newPublishing (name source delegate dispatcher : String)
  | register (registrar : String) (subject : Instance)
  | update (registrar : String) (subject : Instance)
  | unregister (registrar : String) (subject : Instance)
  | start (registrar : String)
  | stop (registrar : String)
  | addInstance (memory : String) (subject : Instance)
  | updateInstance (memory : String) (subject : Instance)
  | removeInstance (memory : String) (subject : Instance)
  | services (discovery : String)
  | instances (discovery service : String)
  | page (discovery service : String) (offset size : UInt64) (healthyOnly : Bool)
  | addChange (discovery service listener : String)
  | removeChange (discovery service listener : String)
  | discoveryName (discovery : String)
  | discoveryPriority (discovery : String)
  | sources (composite : String)
  | isWatching (backed service : String)
  | publish (configuration key group value : String)
  | removeValue (configuration key group : String)
  | getValue (configuration key group : String)
  | newMetadata (name : String) (storeName : StoreName)
  | exportUrl (store : String) (url : Url)
  | unexportUrl (store : String) (url : Url)
  | subscribeUrl (store : String) (url : Url)
  | unsubscribeUrl (store : String) (url : Url)
  | exported (store interface : String) (group version : Option String)
  | exportedByProtocol (store interface : String) (group version protocol : Option String)
  | allExported (store : String)
  | subscribed (store : String)
  | storeName (store : String)
  | storeVersion (store : String)
  | newRegistry (name : String) (plan : RegistryPlan)
  | registerUrl (registry : String) (url : Url)
  | unregisterUrl (registry : String) (url : Url)
  | subscribe (registry : String) (url : Url) (sink : String)
  | unsubscribe (registry : String) (url : Url) (sink : String)
  | shouldRegister (registry : String) (url : Url)
  | isMetadataUrl (registry : String) (url : Url)
  | serviceNames (registry interface : String)
  | subscriptionCount (registry : String) (url : Url)
  | registryUrl (registry : String)
  | isAvailable (registry : String)
  /-- Installs a log subscriber where there is one already. -/
  | installLog (filter : String) (json : Bool)

/-- What a step comes to. -/
inductive Answer
  | done
  | absent
  | flag (value : Bool)
  | number (value : Int)
  | text (value : String)
  | texts (values : List String)
  | instances (values : List Instance)
  | page (value : Page Instance)
  | failed (cause : Failure)
  | refused (refusal : Refusal)
  | panicked (payload : Payload)
  /-- The step names an object that does not exist or is of another kind. -/
  | misdirected
deriving DecidableEq

/-- What the stand-ins record. -/
inductive Record
  /-- A listener was told of an event. -/
  | heard (listener : String) (event : Event)
  /-- A sink was handed a list. -/
  | received (sink : String) (urls : List Url)
  /-- A stand-in has taken a step of its script. -/
  | acted (performer : String) (answer : Answer)
  /-- A backend has taken a step while it was asked for a watch. -/
  | watching (service : String) (answer : Answer)
  /-- An executor has run a tagged task. -/
  | ran (tag : String)
deriving DecidableEq

/-- What comes of one step: its answer, and what was recorded and logged meanwhile. -/
structure Entry where
  answer : Answer
  records : List Record
  notices : List Notice

end ServiceDirectory.Rehearsal
