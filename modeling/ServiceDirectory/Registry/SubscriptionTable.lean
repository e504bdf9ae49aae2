import ServiceDirectory.OrderedMap
import ServiceDirectory.World.Listener

/-!
# Active subscriptions

The subscriptions of a registry, by the canonical string of the subscribed URL and, for
one URL, in the order in which they were made.  A URL without subscriptions has no
entry.
-/

namespace ServiceDirectory

/-- A sink's subscription, with the watcher that keeps it fresh. -/
structure Subscription where
  sink : Ref .sink
  watcher : Watcher
deriving DecidableEq, Repr

namespace Subscription

/-- The services whose changes refresh the subscription. -/
def services (s : Subscription) : List String := s.watcher.services

end Subscription

/-- Subscriptions by canonical URL. -/
structure SubscriptionTable where
  lists : OrderedMap String (List Subscription)
deriving DecidableEq, Repr

namespace SubscriptionTable

def empty : SubscriptionTable := ⟨.empty⟩

instance : Inhabited SubscriptionTable := ⟨empty⟩

def get (t : SubscriptionTable) (url : String) : List Subscription := t.lists.getD url []

def count (t : SubscriptionTable) (url : String) : Nat := (t.get url).length

def add (t : SubscriptionTable) (url : String) (s : Subscription) : SubscriptionTable :=
  ⟨t.lists.insert url (t.get url ++ [s])⟩

/-- Takes out the subscriptions of a sink to a URL. -/
def take (t : SubscriptionTable) (url : String) (sink : Ref .sink) :
    List Subscription × SubscriptionTable :=
  let (removed, kept) := (t.get url).partition fun s => s.sink = sink
  (removed, ⟨t.lists.putList url kept⟩)

@[simp]
theorem get_empty (url : String) : empty.get url = [] := rfl

theorem get_add (t : SubscriptionTable) (url url' : String) (s : Subscription) :
    (t.add url s).get url' = if url = url' then t.get url' ++ [s] else t.get url' := by
  by_cases h : url = url'
  · subst h
    simp [add, get]
  · simp [add, get, h]

theorem get_take (t : SubscriptionTable) (url url' : String) (sink : Ref .sink) :
    (t.take url sink).2.get url' =
      if url = url' then (t.get url').filter fun s => s.sink ≠ sink else t.get url' := by
  by_cases h : url = url'
  · subst h
    simp [take, get, List.partition_eq_filter_filter, Function.comp_def]
  · simp [take, get, h]

end SubscriptionTable

end ServiceDirectory
