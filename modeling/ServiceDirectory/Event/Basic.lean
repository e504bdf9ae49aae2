import ServiceDirectory.Event.Kind
import ServiceDirectory.Instance.Basic

/-!
# Events

What listeners are told: a free-form payload, the life cycle of an instance or of a
registry, or the complete new instance set of a service.
-/

namespace ServiceDirectory

namespace EventKind

/-- The kind above all kinds of this library. -/
def any : EventKind := .root "event"

/-- The kind above everything that happens to one instance. -/
def instanceChange : EventKind := .child "service-instance" any

/-- The kind above the starting and stopping of a registry. -/
def lifecycle : EventKind := .child "service-registry-lifecycle" any

def started : EventKind := .child "service-registry-started" lifecycle

def stopped : EventKind := .child "service-registry-stopped" lifecycle

/-- The kind of a change in the instance set of a service. -/
def membership : EventKind := .child "service-discovery-change" any

end EventKind

/-- What happened to an instance. -/
inductive InstanceChange
  | preRegistered
  | registered
  | updated
  | unregistered
deriving DecidableEq, Repr

def InstanceChange.kind : InstanceChange → EventKind
  | .preRegistered => .child "service-instance-pre-registered" .instanceChange
  | .registered => .child "service-instance-registered" .instanceChange
  | .updated => .child "service-instance-updated" .instanceChange
  | .unregistered => .child "service-instance-unregistered" .instanceChange

/-- The kinds that this library raises or listens to, and those above them. -/
def EventKind.known : List EventKind := [
  .any, .instanceChange, InstanceChange.preRegistered.kind, InstanceChange.registered.kind,
  InstanceChange.updated.kind, InstanceChange.unregistered.kind, .lifecycle, .started,
  .stopped, .membership]

inductive EventContent
  /-- A payload under the kind above all others. -/
  | generic (payload : String)
  /-- A payload under a kind of the client's own. -/
  | custom (kind : EventKind) (payload : String)
  | instanceChange (change : InstanceChange) (subject : Instance)
  | lifecycle (started : Bool)
  /-- The complete instance set of a service after a change. -/
  | membership (service : String) (instances : List Instance)
deriving DecidableEq

/-- An occurrence that is delivered to listeners. -/
structure Event where
  /-- The component that raised the event. -/
  source : String
  /-- Milliseconds since the epoch, where the event was given a time of its own. -/
  timestamp : Option UInt64
  content : EventContent
deriving DecidableEq

/-- The kind that the content of an event decides. -/
def EventContent.kind : EventContent → EventKind
  | .generic _ => .any
  | .custom kind _ => kind
  | .instanceChange change _ => change.kind
  | .lifecycle true => .started
  | .lifecycle false => .stopped
  | .membership _ _ => .membership

namespace Event

def kind (e : Event) : EventKind := e.content.kind

/-- An event without a time of its own. -/
def raise (source : String) (content : EventContent) : Event := ⟨source, none, content⟩

/-- Whether the event is of a kind or of one below it. -/
def isOf (e : Event) (kind : EventKind) : Bool := kind.accepts e.kind

end Event

end ServiceDirectory
