import ServiceDirectory.Dispatcher.Dispatch

/-!
# Instances in a backend

A source that asks a backend, and that turns the backend's reports of changes into
events.  A report is answered with a fresh query; the result is dispatched as a change
event, and the source's bridge on the dispatcher hands it to the source's notifier.

A watch is installed the first time an observer is added for a service and at most once
per service; only an accepted watch counts.
-/

namespace ServiceDirectory

variable {κ : Type}

/-- Asks the backend for the instances of a service and dispatches the answer.  A backend
that is gone reports nothing. -/
def WatchHook.fire (host : Host κ) (hook : WatchHook) (service : String) : Run κ Unit := do
  if ← host.enter (.backend hook.backend) then
    match ← host.instances hook.backend service with
    | .ok instances => do
      note (.changeReported hook.source service instances.length)
      Dispatcher.dispatch host hook.dispatcher
        (.raise hook.source (.membership service instances))
    | .error cause => note (.changeQueryFailed hook.source service cause.message)
    host.leave (.backend hook.backend)

namespace BackedSource

/-- Makes a source and puts its bridge on the dispatcher. -/
def create (name : String) (backend : Ref .backend) (dispatcher : Ref .dispatcher)
    (notifier : Ref .notifier) : Call κ (Ref .backed) := do
  let serial ← Call.ofRun freshSerial
  Dispatcher.addListener dispatcher (.bridge serial notifier)
  let id ← Call.ofRun (freshRef .backed)
  modify fun w => w.setSource id ⟨name, backend, dispatcher, notifier, []⟩
  return id

/-- Whether the backend has accepted a watch of a service. -/
def isWatching (w : World κ) (id : Ref .backed) (service : String) : Bool :=
  (w.source id).watched.contains service

/-- What the source gives to its backend with a watch. -/
def hook (s : BackedSource) : WatchHook := ⟨s.backend, s.dispatcher, s.name⟩

/-- Counts a service as watched. -/
def setWatched (id : Ref .backed) (service : String) : Run κ Unit :=
  modify fun w =>
    let s := w.source id
    w.setSource id { s with
      watched := if s.watched.contains service then s.watched else s.watched ++ [service] }

/-- Adds an observer for a service, and a watch if there is none.  When the backend
refuses the watch, the observer is removed again. -/
def addObserver (host : Host κ) (id : Ref .backed) (service : String) (o : Observer) :
    Act κ Unit := do
  let source := (← get).source id
  Act.ofRun (Notifier.add source.notifier service o)
  unless isWatching (← get) id service do
    (Act.ofResult (host.watch source.backend service source.hook)).orUndo
      (Notifier.remove source.notifier service o)
    Act.ofRun do
      setWatched id service
      note (.watchInstalled source.name service)

/-- The source's name and the number of its watches, as they are shown. -/
def describe (w : World κ) (id : Ref .backed) : String :=
  let source := w.source id
  "BackendServiceDiscovery \x7b name: " ++ Text.quoted source.name ++ ", watched: " ++
    toString source.watched.length ++ ", .. \x7d"

end BackedSource

end ServiceDirectory
