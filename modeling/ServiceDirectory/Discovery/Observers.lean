import ServiceDirectory.Discovery.Backed

/-!
# Observing a source

An observer of a composite is an observer of each of its sources.  Adding stops at the
first source that fails; what has been added to the sources before it stays.
-/

namespace ServiceDirectory.Discovery

variable {κ : Type}

/-- Makes a source of sources, of which there must be at least one. -/
def compose (sources : List Discovery) : Call κ Discovery := do
  if sources.isEmpty then throw .noSources
  return composite (← Call.ofRun (freshRef .composite)) sources

mutual

/-- Adds an observer of the changes of a service. -/
def addObserver (host : Host κ) (service : String) (o : Observer) : Discovery → Act κ Unit
  | memory id => do Act.ofRun (Notifier.add ((← get).memory id).notifier service o)
  | backed id => BackedSource.addObserver host id service o
  | composite _ sources => addObserverToAll host service o sources

def addObserverToAll (host : Host κ) (service : String) (o : Observer) :
    List Discovery → Act κ Unit
  | [] => return
  | source :: rest => do
    source.addObserver host service o
    addObserverToAll host service o rest

end

mutual

/-- Removes an observer of the changes of a service. -/
def removeObserver (service : String) (o : Observer) : Discovery → Run κ Unit
  | memory id => do Notifier.remove ((← get).memory id).notifier service o
  | backed id => do Notifier.remove ((← get).source id).notifier service o
  | composite _ sources => removeObserverFromAll service o sources

def removeObserverFromAll (service : String) (o : Observer) : List Discovery → Run κ Unit
  | [] => return
  | source :: rest => do
    source.removeObserver service o
    removeObserverFromAll service o rest

end

/-- How a composite is shown: by the names of its sources. -/
def describeComposite (w : World κ) (sources : List Discovery) : String :=
  "CompositeServiceDiscovery [composite : [" ++
    ", ".intercalate (sources.map (name w)) ++ "]]"

end ServiceDirectory.Discovery
