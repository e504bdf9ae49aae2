import ServiceDirectory.World.State

/-!
# What lies outside the library

The library calls listeners, sinks, backends, configurations and executors that it does
not know.  A host says what each of them does to the world; it may call back into the
library while doing so.  Every definition of the library is given for an arbitrary
host, so what is proved of it holds whatever the collaborators do.
-/

namespace ServiceDirectory

/-- The complete current list of a subscription, on its way to the sink. -/
structure Delivery where
  subscribed : Url
  sink : Ref .sink
  urls : List Url
  /-- The watcher that keeps the subscription fresh, if there is one. -/
  watcher : Option Watcher
deriving DecidableEq

/-- A call that may change what a backend stores or does. -/
inductive BackendCommand
  | register (subject : Instance)
  | update (subject : Instance)
  | unregister (subject : Instance)
  | start
  | stop
deriving DecidableEq

/-- What a backend is given to report changes with. -/
structure WatchHook where
  backend : Ref .backend
  dispatcher : Ref .dispatcher
  /-- The name of the discovery that installed the watch. -/
  source : String
deriving DecidableEq

/-- The work of one dispatch: the listeners as they were when it was called. -/
structure Task where
  buckets : Buckets
  event : Event

/-- Something that is used without being kept alive. -/
inductive Lease
  | discovery (source : Discovery)
  | backend (id : Ref .backend)

/-- What the collaborators do. -/
structure Host (κ : Type) where
  /-- Tells a listener of an event; it may panic. -/
  onEvent : Ref .listener → Event → Run κ (Option Payload)
  /-- Hands a list to a sink, which may panic. -/
  deliver : Delivery → Run κ (Option Payload)
  /-- Gives a task to an executor. -/
  handOff : Ref .executor → Task → Run κ Unit
  command : Ref .backend → BackendCommand → Run κ (Except Failure Unit)
  services : Ref .backend → Run κ (Except Failure (List String))
  instances : Ref .backend → String → Run κ (Except Failure (List Instance))
  /-- Asks a backend to report the changes of a service; it may refuse or panic. -/
  watch : Ref .backend → String → WatchHook → Run κ (Except Stop Unit)
  lookup : Ref .configuration → (key group : String) → Run κ (Except Failure (Option String))
  /-- Starts to use what may be gone by now; tells whether it is still there. -/
  enter : Lease → Run κ Bool
  leave : Lease → Run κ Unit

/-- Collaborators that answer and do nothing else.  An interface belongs to the service of
the same name. -/
def Host.quiet {κ : Type} : Host κ where
  onEvent _ _ := pure none
  deliver _ := pure none
  handOff _ _ := pure ()
  command _ _ := pure (.ok ())
  services _ := pure (.ok [])
  instances _ _ := pure (.ok [])
  watch _ _ _ := pure (.ok ())
  lookup _ key _ := pure (.ok (some key))
  enter _ := pure true
  leave _ := pure ()

/-- A computation that returns, where one may fail. -/
def Call.ofRun {κ α : Type} (run : Run κ α) : Call κ α := ExceptT.lift run

/-- A computation that returns, where one may stop. -/
def Act.ofRun {κ α : Type} (run : Run κ α) : Act κ α := ExceptT.lift run

/-- Goes on with the value of a collaborator, or fails with its failure. -/
def Call.ofResult {κ α : Type} (result : Run κ (Except Failure α)) : Call κ α :=
  ExceptT.mk result

/-- Goes on when a collaborator returned, or stops with its panic. -/
def Act.ofReaction {κ : Type} (reaction : Run κ (Option Payload)) : Act κ Unit :=
  ExceptT.mk do
    match ← reaction with
    | none => return .ok ()
    | some payload => return .error (.panicked payload)

/-- Goes on with the value of a collaborator, or stops as it did. -/
def Act.ofResult {κ α : Type} (result : Run κ (Except Stop α)) : Act κ α := ExceptT.mk result

/-- Goes on with the value of a call, or stops with its failure. -/
def Act.ofCall {κ α : Type} (call : Call κ α) : Act κ α := ExceptT.adapt Stop.failed call

/-- Runs `cleanup` if an act fails, and fails for the same cause then.  A panic is passed
on as it comes; nothing is undone for it. -/
def Act.orUndo {κ α : Type} (act : Act κ α) (cleanup : Run κ Unit) : Act κ α :=
  ExceptT.mk do
    let result ← act.run
    match result with
    | .error (.failed _) => cleanup
    | _ => pure ()
    return result

end ServiceDirectory
