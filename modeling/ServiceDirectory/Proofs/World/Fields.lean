import ServiceDirectory.World.State

/-!
# What a change of one part of a world leaves

A world is changed part by part.  Each lemma reads a part back after it has been set;
that all other parts are what they were holds by definition.
-/

namespace ServiceDirectory.World

variable {κ : Type}

@[simp]
theorem audience_setAudience (w : World κ) (n n' : Ref .notifier) (a : Audience) :
    (w.setAudience n a).audience n' = if n = n' then a else w.audience n' := by
  simp [audience, setAudience]

@[simp]
theorem registry_setRegistry (w : World κ) (id id' : Ref .registry) (r : Registry) :
    (w.setRegistry id r).registry id' = if id = id' then r else w.registry id' := by
  simp [registry, setRegistry]

@[simp]
theorem dispatcher_setDispatcher (w : World κ) (id id' : Ref .dispatcher) (d : Dispatcher) :
    (w.setDispatcher id d).dispatcher id' = if id = id' then d else w.dispatcher id' := by
  simp [dispatcher, setDispatcher]

@[simp]
theorem memory_setMemory (w : World κ) (id id' : Ref .memory) (m : MemorySource) :
    (w.setMemory id m).memory id' = if id = id' then m else w.memory id' := by
  simp [memory, setMemory]

@[simp]
theorem source_setSource (w : World κ) (id id' : Ref .backed) (s : BackedSource) :
    (w.setSource id s).source id' = if id = id' then s else w.source id' := by
  simp [source, setSource]

@[simp]
theorem store_setStore (w : World κ) (id id' : Ref .metadata) (m : MetadataStore) :
    (w.setStore id m).store id' = if id = id' then m else w.store id' := by
  simp [store, setStore]

end ServiceDirectory.World
