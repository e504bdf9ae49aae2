import ServiceDirectory.Event.Basic
import ServiceDirectory.Url.Basic
import ServiceDirectory.World.Ref

/-!
# Listeners

A listener is identified by what it is, not by what it does: two references to one
client listener are the same registration.  Besides the listeners of clients there are
two of this library's own.  A watcher refreshes one subscription when a service it
resolved to changes, and a bridge hands the change events of a dispatcher to a
notifier.  A bridge listens on dispatchers only, so nothing a notifier calls leads
back into it.
-/

namespace ServiceDirectory

/-- Refreshes the subscription of a sink. -/
structure Watcher where
  serial : Nat
  /-- The registry whose discovery is asked. -/
  registry : Ref .registry
  subscribed : Url
  /-- The services to which the subscribed interface was resolved. -/
  services : List String
  sink : Ref .sink
deriving DecidableEq, Repr

/-- A listener that may be told of the changes of one service. -/
inductive Observer
  | client (listener : Ref .listener)
  | watcher (watcher : Watcher)
deriving DecidableEq, Repr

/-- A listener that may be registered on a dispatcher. -/
inductive Listener
  | observer (observer : Observer)
  /-- Hands change events to a notifier; the serial tells bridges apart. -/
  | bridge (serial : Nat) (notifier : Ref .notifier)
deriving DecidableEq, Repr

/-- The priority of what comes before everything else. -/
def highestPriority : Int := -2147483648

/-- The priority of what does not ask for one. -/
def defaultPriority : Int := 2147483647

/-- What a client listener declares of itself; it may change its mind at any time. -/
structure Profile where
  /-- The kind of events it accepts, if it is bound to one. -/
  kind : Option EventKind
  /-- Smaller values run first. -/
  priority : Int
deriving DecidableEq, Repr

end ServiceDirectory
