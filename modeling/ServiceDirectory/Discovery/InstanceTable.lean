import ServiceDirectory.Instance.Basic
import ServiceDirectory.NameSet
import ServiceDirectory.OrderedMap

/-!
# Instances by service

For each service the records of its instances, one per identity, in the order in which
the identities came.  Each operation tells whether it had something to do.
-/

namespace ServiceDirectory

/-- Replaces the first record of an instance, or appends a new one. -/
def replaceOrAppend : List Instance → Instance → Bool × List Instance
  | [], x => (true, [x])
  | y :: rest, x =>
    if y.same x then (false, x :: rest)
    else
      let (added, rest) := replaceOrAppend rest x
      (added, y :: rest)

/-- Replaces the first record of an instance, if there is one. -/
def replaceFirst : List Instance → Instance → Option (List Instance)
  | [], _ => none
  | y :: rest, x =>
    if y.same x then some (x :: rest) else (replaceFirst rest x).map (y :: ·)

/-- Instance records by service. -/
structure InstanceTable where
  lists : OrderedMap String (List Instance)
deriving DecidableEq

namespace InstanceTable

def empty : InstanceTable := ⟨.empty⟩

instance : Inhabited InstanceTable := ⟨empty⟩

def get (t : InstanceTable) (service : String) : List Instance := t.lists.getD service []

/-- The services that have instances, in ascending order. -/
def services (t : InstanceTable) : List String :=
  sortedNames ((t.lists.entries.filter fun entry => !entry.2.isEmpty).map Prod.fst)

def put (t : InstanceTable) (service : String) (instances : List Instance) : InstanceTable :=
  ⟨t.lists.insert service instances⟩

/-- Adds an instance, or replaces its record; tells whether it is new. -/
def add (t : InstanceTable) (x : Instance) : Bool × InstanceTable :=
  let (added, instances) := replaceOrAppend (t.get x.service) x
  (added, t.put x.service instances)

/-- Replaces the record of an instance; nothing if there is none. -/
def update (t : InstanceTable) (x : Instance) : Option InstanceTable :=
  (replaceFirst (t.get x.service) x).map (t.put x.service)

/-- Removes an instance; nothing if it is not there. -/
def remove (t : InstanceTable) (x : Instance) : Option InstanceTable :=
  let instances := t.get x.service
  let rest := instances.filter fun y => !y.same x
  if rest.length = instances.length then none else some (t.put x.service rest)

@[simp]
theorem get_put (t : InstanceTable) (service service' : String) (instances : List Instance) :
    (t.put service instances).get service' =
      if service = service' then instances else t.get service' := by
  simp only [get, put, OrderedMap.getD, OrderedMap.get?_insert]
  split <;> rfl

end InstanceTable

end ServiceDirectory
