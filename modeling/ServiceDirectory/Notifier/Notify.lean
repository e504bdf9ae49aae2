import ServiceDirectory.Registry.Refresh

/-!
# Telling observers of a change

A notifier tells the observers of a service in the order in which they were added, as
they were when it began.  A panic of one observer is logged and does not keep the
others from being told.
-/

namespace ServiceDirectory

variable {κ : Type}

/-- Logs the panic of a reaction, if it panicked; tells whether it returned. -/
def contain (event : Event) (priority : World κ → Int)
    (reaction : Run κ (Option Payload)) : Run κ Bool := do
  match ← reaction with
  | none => return true
  | some payload =>
    note (.listenerPanicked event.kind.name event.source (priority (← get)) payload.shown)
    return false

namespace Observer

def react (host : Host κ) (event : Event) : Observer → Run κ (Option Payload)
  | client listener => host.onEvent listener event
  | watcher refresher => refresher.refresh host event

/-- Tells an observer of an event; tells whether it returned. -/
def invoke (host : Host κ) (event : Event) (o : Observer) : Run κ Bool :=
  contain event (fun w => w.observerPriority o) (o.react host event)

end Observer

namespace Notifier

def create : Run κ (Ref .notifier) := do
  let id ← freshRef .notifier
  modify fun w => w.setAudience id .empty
  return id

def add (id : Ref .notifier) (service : String) (o : Observer) : Run κ Unit :=
  modify fun w => w.setAudience id ((w.audience id).add service o)

def remove (id : Ref .notifier) (service : String) (o : Observer) : Run κ Unit :=
  modify fun w => w.setAudience id ((w.audience id).remove service o)

def clear (id : Ref .notifier) (service : String) : Run κ Unit :=
  modify fun w => w.setAudience id ((w.audience id).clear service)

/-- The number of observers for a service. -/
def count (w : World κ) (id : Ref .notifier) (service : String) : Nat :=
  ((w.audience id).observers service).length

/-- Tells the observers of the service that changed; other events concern nobody. -/
def notify (host : Host κ) (id : Ref .notifier) (event : Event) : Run κ Unit := do
  match event.content with
  | .membership service instances =>
    match ((← get).audience id).list? service with
    | none => return
    | some observers =>
      note (.changeNotified service observers.length instances.length)
      observers.forM fun o => discard (o.invoke host event)
  | _ => return

end Notifier

end ServiceDirectory
