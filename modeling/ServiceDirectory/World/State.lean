import ServiceDirectory.Discovery.InstanceTable
import ServiceDirectory.Discovery.Source
import ServiceDirectory.Dispatcher.Roster
import ServiceDirectory.Metadata.Store
import ServiceDirectory.Notifier.Audience
import ServiceDirectory.Registry.SubscriptionTable
import ServiceDirectory.World.Failure
import ServiceDirectory.World.Notice

/-!
# Worlds

A world holds everything that changes while registries and discoveries are at work: the
parts of this library under their references, the log, and whatever state the clients
of the library have, of which nothing is known here.

Computations come in three strengths: a `Run` always returns, a `Call` may fail for a
stated cause, and an `Act` may besides be torn down by the panic of a collaborator.  In
all three the world goes on from where the computation stopped.
-/

namespace ServiceDirectory

/-- Where the tasks of a dispatcher run. -/
inductive Executor
  /-- Within the call that hands them over. -/
  | direct
  /-- Wherever an executor of the client runs them. -/
  | external (id : Ref .executor)
deriving DecidableEq, Repr

/-- A dispatcher of events. -/
structure Dispatcher where
  roster : Roster
  executor : Executor

/-- A source that keeps its instances in memory. -/
structure MemorySource where
  name : String
  notifier : Ref .notifier
  table : InstanceTable

/-- A source that asks a backend. -/
structure BackedSource where
  name : String
  backend : Ref .backend
  dispatcher : Ref .dispatcher
  notifier : Ref .notifier
  /-- The services for which the backend has accepted a watch. -/
  watched : List String

/-- A registry that resolves interfaces to instances. -/
structure Registry where
  url : Url
  /-- The configuration group that maps interfaces to services. -/
  group : String
  metadata : Ref .metadata
  discovery : Discovery
  configuration : Ref .configuration
  subscriptions : SubscriptionTable

instance : Inhabited Profile := ⟨none, defaultPriority⟩

instance : Inhabited Dispatcher := ⟨default, .direct⟩

instance : Inhabited MemorySource := ⟨"", ⟨0⟩, default⟩

instance : Inhabited BackedSource := ⟨"", ⟨0⟩, ⟨0⟩, ⟨0⟩, []⟩

instance : Inhabited Registry :=
  ⟨.ofParts "" "" none "", "", ⟨0⟩, .composite ⟨0⟩ [], ⟨0⟩, default⟩

/-- Everything that changes, with `κ` for the state of the clients. -/
structure World (κ : Type) where
  next : Nat
  /-- The log, latest notice first. -/
  journal : List Notice
  listeners : OrderedMap (Ref .listener) Profile
  dispatchers : OrderedMap (Ref .dispatcher) Dispatcher
  notifiers : OrderedMap (Ref .notifier) Audience
  memories : OrderedMap (Ref .memory) MemorySource
  backed : OrderedMap (Ref .backed) BackedSource
  stores : OrderedMap (Ref .metadata) MetadataStore
  registries : OrderedMap (Ref .registry) Registry
  client : κ

/-- A computation that always returns. -/
abbrev Run (κ : Type) := StateM (World κ)

/-- A computation that may fail for a stated cause. -/
abbrev Call (κ : Type) := ExceptT Failure (Run κ)

/-- A computation that may fail or be torn down by a panic. -/
abbrev Act (κ : Type) := ExceptT Stop (Run κ)

namespace World

variable {κ : Type}

def initial (client : κ) : World κ :=
  ⟨0, [], .empty, .empty, .empty, .empty, .empty, .empty, .empty, client⟩

def profile (w : World κ) (id : Ref .listener) : Profile := w.listeners.getD id default

def dispatcher (w : World κ) (id : Ref .dispatcher) : Dispatcher :=
  w.dispatchers.getD id default

def audience (w : World κ) (id : Ref .notifier) : Audience := w.notifiers.getD id default

def memory (w : World κ) (id : Ref .memory) : MemorySource := w.memories.getD id default

def source (w : World κ) (id : Ref .backed) : BackedSource := w.backed.getD id default

def store (w : World κ) (id : Ref .metadata) : MetadataStore := w.stores.getD id default

def registry (w : World κ) (id : Ref .registry) : Registry := w.registries.getD id default

def setProfile (w : World κ) (id : Ref .listener) (p : Profile) : World κ :=
  { w with listeners := w.listeners.insert id p }

def setDispatcher (w : World κ) (id : Ref .dispatcher) (d : Dispatcher) : World κ :=
  { w with dispatchers := w.dispatchers.insert id d }

def setAudience (w : World κ) (id : Ref .notifier) (a : Audience) : World κ :=
  { w with notifiers := w.notifiers.insert id a }

def setMemory (w : World κ) (id : Ref .memory) (m : MemorySource) : World κ :=
  { w with memories := w.memories.insert id m }

def setSource (w : World κ) (id : Ref .backed) (s : BackedSource) : World κ :=
  { w with backed := w.backed.insert id s }

def setStore (w : World κ) (id : Ref .metadata) (m : MetadataStore) : World κ :=
  { w with stores := w.stores.insert id m }

def setRegistry (w : World κ) (id : Ref .registry) (r : Registry) : World κ :=
  { w with registries := w.registries.insert id r }

def note (w : World κ) (n : Notice) : World κ := { w with journal := n :: w.journal }

/-- The kind of events a listener declares; those of this library listen to changes. -/
def declaredKind (w : World κ) : Listener → Option EventKind
  | .observer (.client id) => (w.profile id).kind
  | .observer (.watcher _) => some .membership
  | .bridge _ _ => some .membership

def observerPriority (w : World κ) : Observer → Int
  | .client id => (w.profile id).priority
  | .watcher _ => defaultPriority

def priority (w : World κ) : Listener → Int
  | .observer o => w.observerPriority o
  | .bridge _ _ => defaultPriority

end World

variable {κ : Type}

def note (n : Notice) : Run κ Unit := modify fun w => w.note n

def freshSerial : Run κ Nat := modifyGet fun w => (w.next, { w with next := w.next + 1 })

def freshRef (part : Part) : Run κ (Ref part) := do return ⟨← freshSerial⟩

end ServiceDirectory
