import ServiceDirectory.Configuration
import ServiceDirectory.Registrar
import ServiceDirectory.Registry.Subscribe
import ServiceDirectory.Rehearsal.Step
import ServiceDirectory.Settings.Json

/-!
# The stage of a rehearsal

The state of the stand-ins, and the objects that the steps have made under names.  An
object stays in use as long as a name, another object in use, or a call in progress
holds it.
-/

namespace ServiceDirectory.Rehearsal

/-- What a stand-in does when it is called. -/
structure Script where
  /-- The name under which it records. -/
  name : String
  actions : List Step
  /-- How many more calls run the actions. -/
  times : Nat
  /-- The panic with which every call ends. -/
  panic : Option Payload

structure ListenerDouble where
  script : Script
  /-- Whether it was made with a priority of its own. -/
  ownPriority : Bool
  /-- Whether what it declares is fixed. -/
  fixed : Bool

structure BackendDouble where
  /-- The instances of each service, in the order of their registration. -/
  instances : OrderedMap String (List Instance)
  /-- Every service that ever had a registration. -/
  known : List String
  /-- The calls that fail, by name or by name and service. -/
  fail : List String
  /-- The steps that are taken when a watch is asked for. -/
  onWatch : List Step
  /-- Whether starting and stopping never fail. -/
  plain : Bool
  /-- The accepted watches of each service. -/
  hooks : OrderedMap String (List WatchHook)

structure ConfigurationDouble where
  contents : Configuration
  /-- The keys whose look-up fails. -/
  fail : List String

/-- What an executor is given to do. -/
inductive Work
  | task (task : Task)
  /-- A task that only records its tag. -/
  | tag (tag : String)

inductive ExecutorDouble
  /-- Holds what it is given. -/
  | queue (pending : List Work)
  /-- Passes everything on to the pool. -/
  | pool

/-- What a name stands for. -/
inductive Object
  | listener (id : Ref .listener)
  | sink (id : Ref .sink)
  | backend (id : Ref .backend)
  | configuration (id : Ref .configuration)
  | dispatcher (id : Ref .dispatcher)
  | notifier (id : Ref .notifier)
  | discovery (source : Discovery)
  | publishing (registrar : Registrar)
  | store (id : Ref .metadata)
  | registry (id : Ref .registry)

/-- The state of the stand-ins. -/
structure Stage where
  objects : OrderedMap String Object
  /-- Every backend name that was ever given, also of backends that were dropped. -/
  backendNames : OrderedMap String (Ref .backend)
  listeners : OrderedMap (Ref .listener) ListenerDouble
  sinks : OrderedMap (Ref .sink) Script
  backends : OrderedMap (Ref .backend) BackendDouble
  configurations : OrderedMap (Ref .configuration) ConfigurationDouble
  executors : OrderedMap (Ref .executor) ExecutorDouble
  /-- What the pool has yet to do, oldest first. -/
  pool : List Work
  /-- What calls in progress hold, latest first. -/
  held : List Object
  /-- The records of the current step, latest first. -/
  records : List Record
  /-- Whether calls were nested deeper than was allowed for. -/
  overrun : Bool

instance : Inhabited Script := ⟨"", [], 0, none⟩

instance : Inhabited ListenerDouble := ⟨default, false, false⟩

instance : Inhabited BackendDouble := ⟨.empty, [], [], [], false, .empty⟩

instance : Inhabited ConfigurationDouble := ⟨.empty, []⟩

instance : Inhabited ExecutorDouble := ⟨.pool⟩

def Stage.bare : Stage :=
  ⟨.empty, .empty, .empty, .empty, .empty, .empty, .empty, [], [], [], false⟩

/-- The world of a rehearsal. -/
abbrev Scene := World Stage

/-- A computation of a rehearsal. -/
abbrev Play := Run Stage

/-- A step on its way to an answer, which it may find early. -/
abbrev Turn := ExceptT Answer Play

def onStage (change : Stage → Stage) : Play Unit :=
  modify fun w => { w with client := change w.client }

def record (r : Record) : Play Unit := onStage fun s => { s with records := r :: s.records }

/-- Puts an object under a name. -/
def place (name : String) (object : Object) : Play Unit :=
  onStage fun s => { s with objects := s.objects.insert name object }

/-- Runs a computation while an object is held. -/
def holding {α : Type} (object : Object) (play : Play α) : Play α := do
  onStage fun s => { s with held := object :: s.held }
  let result ← play
  onStage fun s => { s with held := s.held.tail }
  return result

/-- The sources that a registrar writes to. -/
def registrarSource : Registrar → Discovery
  | .memory id => .memory id
  | .backed id => .backed id
  | .publishing _ delegate _ => registrarSource delegate

/-- The sources that an object keeps in use. -/
def Object.sources (w : Scene) : Object → List Discovery
  | .discovery source => source.parts
  | .publishing registrar => [registrarSource registrar]
  | .registry id => (w.registry id).discovery.parts
  | _ => []

/-- The backends that an object keeps in use. -/
def Object.backends (w : Scene) (object : Object) : List (Ref .backend) :=
  let own := match object with
    | .backend id => [id]
    | _ => []
  own ++ (object.sources w).filterMap fun source =>
    match source with
    | .backed id => some (w.source id).backend
    | _ => none

/-- What names and calls in progress hold. -/
def inUse (w : Scene) : List Object := w.client.held ++ w.client.objects.values

/-- Whether something is still in use. -/
def isInUse (w : Scene) : Lease → Bool
  | .discovery source =>
    (inUse w).any fun object => (object.sources w).any fun part => part.id == source.id
  | .backend id => (inUse w).any fun object => (object.backends w).contains id

/-- The object that a lease holds. -/
def leasedObject : Lease → Object
  | .discovery source => .discovery source
  | .backend id => .backend id

end ServiceDirectory.Rehearsal
