import ServiceDirectory.Notifier.Notify

/-!
# Instances in memory

A source that is its own registry.  Every effective change of a service's instances is
announced to the notifier with the complete list as it stands right after the change.
-/

namespace ServiceDirectory.MemorySource

variable {κ : Type}

def create (name : String) (notifier : Ref .notifier) : Run κ (Ref .memory) := do
  let id ← freshRef .memory
  modify fun w => w.setMemory id ⟨name, notifier, .empty⟩
  return id

/-- Replaces the instances of a source and announces those of one service. -/
def publish (host : Host κ) (id : Ref .memory) (table : InstanceTable) (service : String) :
    Run κ Unit := do
  let source := (← get).memory id
  modify fun w => w.setMemory id { w.memory id with table }
  let instances := table.get service
  note (.instancesChanged source.name service instances.length)
  Notifier.notify host source.notifier (.raise source.name (.membership service instances))

/-- Adds an instance or replaces its record; tells whether it is new. -/
def add (host : Host κ) (id : Ref .memory) (x : Instance) : Run κ Bool := do
  let (added, table) := ((← get).memory id).table.add x
  publish host id table x.service
  return added

/-- Replaces the record of an instance; tells whether there is one. -/
def update (host : Host κ) (id : Ref .memory) (x : Instance) : Run κ Bool := do
  match ((← get).memory id).table.update x with
  | none => return false
  | some table =>
    publish host id table x.service
    return true

/-- Removes an instance; tells whether it was there. -/
def remove (host : Host κ) (id : Ref .memory) (x : Instance) : Run κ Bool := do
  match ((← get).memory id).table.remove x with
  | none => return false
  | some table =>
    publish host id table x.service
    return true

end ServiceDirectory.MemorySource
