import ServiceDirectory.Discovery.Backed
import ServiceDirectory.Discovery.Memory

/-!
# Registering instances

A registrar writes instances to a source.  A publishing registrar wraps another one and
dispatches an event around each call: before and after a registration, and after every
other call.  When the wrapped registrar fails, its failure is passed on and nothing more
is published.
-/

namespace ServiceDirectory

variable {κ : Type}

/-- Where instances are registered. -/
inductive Registrar
  | memory (id : Ref .memory)
  | backed (id : Ref .backed)
  /-- Publishes the calls of another registrar under the name of a source. -/
  | publishing (source : String) (delegate : Registrar) (dispatcher : Ref .dispatcher)
deriving DecidableEq, Repr

namespace Registrar

/-- Passes a command to the backend of a source. -/
def command (host : Host κ) (id : Ref .backed) (c : BackendCommand) : Call κ Unit := do
  Call.ofResult (host.command ((← get).source id).backend c)

/-- Publishes what happened to an instance. -/
def publish (host : Host κ) (dispatcher : Ref .dispatcher) (source : String)
    (content : EventContent) : Call κ Unit :=
  Call.ofRun (Dispatcher.dispatch host dispatcher (.raise source content))

def register (host : Host κ) (x : Instance) : Registrar → Call κ Unit
  | memory id => do discard (Call.ofRun (MemorySource.add host id x))
  | backed id => command host id (.register x)
  | publishing source delegate dispatcher => do
    publish host dispatcher source (.instanceChange .preRegistered x)
    delegate.register host x
    publish host dispatcher source (.instanceChange .registered x)

def update (host : Host κ) (x : Instance) : Registrar → Call κ Unit
  | memory id => do discard (Call.ofRun (MemorySource.update host id x))
  | backed id => command host id (.update x)
  | publishing source delegate dispatcher => do
    delegate.update host x
    publish host dispatcher source (.instanceChange .updated x)

def unregister (host : Host κ) (x : Instance) : Registrar → Call κ Unit
  | memory id => do discard (Call.ofRun (MemorySource.remove host id x))
  | backed id => command host id (.unregister x)
  | publishing source delegate dispatcher => do
    delegate.unregister host x
    publish host dispatcher source (.instanceChange .unregistered x)

def start (host : Host κ) : Registrar → Call κ Unit
  | memory _ => return
  | backed id => command host id .start
  | publishing source delegate dispatcher => do
    delegate.start host
    publish host dispatcher source (.lifecycle true)

def stop (host : Host κ) : Registrar → Call κ Unit
  | memory _ => return
  | backed id => command host id .stop
  | publishing source delegate dispatcher => do
    delegate.stop host
    publish host dispatcher source (.lifecycle false)

end Registrar

end ServiceDirectory
