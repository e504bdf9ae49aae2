import ServiceDirectory.OrderedMap
import ServiceDirectory.World.Listener

/-!
# Who is told of the changes of a service

One list of observers per service, each observer once, in the order in which they were
added.  A service keeps its list, perhaps empty, from the first addition on.
-/

namespace ServiceDirectory

/-- Observers by service. -/
structure Audience where
  lists : OrderedMap String (List Observer)
deriving DecidableEq, Repr

namespace Audience

def empty : Audience := ⟨.empty⟩

instance : Inhabited Audience := ⟨empty⟩

/-- The list of a service, if it has one. -/
def list? (a : Audience) (service : String) : Option (List Observer) := a.lists.get? service

def observers (a : Audience) (service : String) : List Observer :=
  (a.list? service).getD []

/-- Adds an observer to a service, unless it is there. -/
def add (a : Audience) (service : String) (o : Observer) : Audience :=
  let known := a.observers service
  ⟨a.lists.insert service (if o ∈ known then known else known ++ [o])⟩

def remove (a : Audience) (service : String) (o : Observer) : Audience :=
  match a.list? service with
  | none => a
  | some known => ⟨a.lists.insert service (known.filter (· ≠ o))⟩

def clear (a : Audience) (service : String) : Audience :=
  match a.list? service with
  | none => a
  | some _ => ⟨a.lists.insert service []⟩

@[simp]
theorem observers_empty (service : String) : empty.observers service = [] := rfl

theorem observers_add (a : Audience) (service service' : String) (o : Observer) :
    (a.add service o).observers service' =
      if service = service' ∧ o ∉ a.observers service' then a.observers service' ++ [o]
      else a.observers service' := by
  by_cases hs : service = service'
  · subst hs
    by_cases ho : o ∈ a.observers service
    · simp only [add, ho, if_true, not_true, and_false, if_false]
      simp [observers, list?]
    · simp only [add, ho, if_false, not_false_iff, and_true, if_true]
      simp [observers, list?]
  · simp [add, observers, list?, hs]

theorem observers_remove (a : Audience) (service service' : String) (o : Observer) :
    (a.remove service o).observers service' =
      if service = service' then (a.observers service').filter (· ≠ o)
      else a.observers service' := by
  unfold remove
  split
  · rename_i h
    by_cases hs : service = service'
    · subst hs
      simp [observers, h]
    · simp [hs]
  · rename_i known h
    by_cases hs : service = service'
    · subst hs
      simp [observers, list?] at h ⊢
      simp [h]
    · simp [observers, list?, hs]

end Audience

end ServiceDirectory
