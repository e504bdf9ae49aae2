import ServiceDirectory.Notifier.Notify

/-!
# Dispatching events

A dispatch captures the registrations as they are when it is called and hands them to
the executor as one task.  The task calls the listeners whose kind accepts the event, by
priority and registration; whatever is registered or removed meanwhile changes later
dispatches only.
-/

namespace ServiceDirectory

variable {κ : Type}

namespace Listener

def react (host : Host κ) (event : Event) : Listener → Run κ (Option Payload)
  | observer o => o.react host event
  | bridge _ notifier => do
    Notifier.notify host notifier event
    return none

/-- Calls a listener, containing a panic; tells whether it returned. -/
def invoke (host : Host κ) (event : Event) (l : Listener) : Run κ Bool :=
  contain event (fun w => w.priority l) (l.react host event)

end Listener

/-- Calls the listeners that a task captured and that accept its event. -/
def Task.run (host : Host κ) (task : Task) : Run κ Unit := do
  let w ← get
  (task.buckets.matching w.priority task.event.kind).forM fun registration =>
    discard (registration.listener.invoke host task.event)

namespace Dispatcher

def create (executor : Executor) : Run κ (Ref .dispatcher) := do
  let id ← freshRef .dispatcher
  modify fun w => w.setDispatcher id ⟨.empty, executor⟩
  return id

def setRoster (id : Ref .dispatcher) (roster : Roster) : Run κ Unit :=
  modify fun w => w.setDispatcher id { w.dispatcher id with roster }

/-- Registers a listener for the kind it declares now. -/
def addListener (id : Ref .dispatcher) (l : Listener) : Call κ Unit := do
  let w ← get
  match w.declaredKind l with
  | none => throw .undeclaredListener
  | some kind =>
    Call.ofRun do
      setRoster id ((w.dispatcher id).roster.add w.priority kind.name l)
      note (.listenerAdded kind.name)

/-- Forgets the registration of a listener for the kind it declares now. -/
def removeListener (id : Ref .dispatcher) (l : Listener) : Call κ Unit := do
  let w ← get
  match w.declaredKind l with
  | none => throw .undeclaredListener
  | some kind =>
    Call.ofRun (setRoster id ((w.dispatcher id).roster.remove w.priority kind.name l))

/-- Registers listeners one by one, up to the first that declares nothing. -/
def addListeners (id : Ref .dispatcher) (listeners : List Listener) : Call κ Unit :=
  listeners.forM (addListener id)

/-- Forgets listeners one by one, up to the first that declares nothing. -/
def removeListeners (id : Ref .dispatcher) (listeners : List Listener) : Call κ Unit :=
  listeners.forM (removeListener id)

/-- Every registered listener once, by priority and registration. -/
def listeners (w : World κ) (id : Ref .dispatcher) : List Listener :=
  Buckets.listeners w.priority (w.dispatcher id).roster.buckets.entries

def removeAll (id : Ref .dispatcher) : Call κ Unit := do
  removeListeners id (listeners (← get) id)

/-- The number of listeners registered for exactly a kind. -/
def listenerCount (w : World κ) (id : Ref .dispatcher) (kind : EventKind) : Nat :=
  (w.dispatcher id).roster.count kind.name

def dispatch (host : Host κ) (id : Ref .dispatcher) (event : Event) : Run κ Unit := do
  let d := (← get).dispatcher id
  let task : Task := ⟨d.roster.buckets.entries, event⟩
  match d.executor with
  | .direct => task.run host
  | .external executor => host.handOff executor task

/-- The names of the kinds with listeners, in ascending order, as they are shown. -/
def describe (w : World κ) (id : Ref .dispatcher) : String :=
  "EventDispatcher \x7b event_types: " ++
    Text.quotedList (sortedNames (w.dispatcher id).roster.kinds) ++ ", .. \x7d"

end Dispatcher

end ServiceDirectory
