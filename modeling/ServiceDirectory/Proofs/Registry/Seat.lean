import ServiceDirectory.Proofs.Registry.Subscribing

/-!
# Seats

A sink has a seat at a URL when it is subscribed.  A call about another URL, which is to say one
with another canonical string, or about another sink leaves the records of the seat as they are.
-/

namespace ServiceDirectory

variable {κ : Type}

namespace Registry

theorem registries_after_dropSubscription (id : Ref .registry) (url : Url) (sink : Ref .sink)
    (w : World κ) :
    (w.after (dropSubscription id url sink)).registries =
      (withoutRecords w id url sink).registries := by
  rw [(dropSubscription_removal id url sink w).elsewhere]

theorem mem_of_mem_dropped {id : Ref .registry} {url : Url} {sink : Ref .sink} {w : World κ}
    {o : Observer} {n : Ref .notifier} {service : String}
    (hmem : o ∈ (w.after (dropSubscription id url sink)).observersAt n service) :
    o ∈ w.observersAt n service := by
  rw [(dropSubscription_removal id url sink w).observers] at hmem
  split_ifs at hmem
  · exact List.mem_of_mem_filter hmem
  · exact hmem

theorem registry_after_setSubscriptions (id : Ref .registry) (subscriptions : SubscriptionTable)
    (w : World κ) : (w.after (setSubscriptions id subscriptions)).registry id =
      { w.registry id with subscriptions } := by
  rw [setSubscriptions, World.after_modify, World.registry_setRegistry, if_pos rfl]

end Registry

open Registry

/-- A sink's place at a URL in a registry. -/
structure Seat where
  registry : Ref .registry
  /-- The canonical string of the URL. -/
  url : String
  sink : Ref .sink

namespace Seat

variable (S : Seat)

/-- Whether a call on a registry is about the seat. -/
def Takes (id : Ref .registry) (url : Url) (sink : Ref .sink) : Prop :=
  id = S.registry ∧ url.fullString = S.url ∧ sink = S.sink

/-- Whether a watcher has been made for the seat. -/
def Owns (x : Watcher) : Prop := S.Takes x.registry x.subscribed x.sink

instance (x : Watcher) : Decidable (S.Owns x) :=
  inferInstanceAs (Decidable (_ ∧ _ ∧ _))

/-- The recorded subscriptions of the seat. -/
def records (w : World κ) : List Subscription :=
  ((w.registry S.registry).subscriptions.get S.url).filter fun s => s.sink = S.sink

variable {S}

/-! ## Taking records out -/

theorem records_dropped {id : Ref .registry} {url : Url} {sink : Ref .sink}
    (hother : ¬S.Takes id url sink) (w : World κ) :
    S.records (w.after (dropSubscription id url sink)) = S.records w := by
  rw [records, World.registry, registries_after_dropSubscription, ← World.registry, withoutRecords,
    World.registry_setRegistry]
  split_ifs with hid
  · subst hid
    rw [SubscriptionTable.get_take]
    split_ifs with hurl
    · have hsink : S.sink ≠ sink := fun hsink => hother ⟨rfl, hurl, hsink.symm⟩
      rw [List.filter_filter, records]
      refine List.filter_congr fun s _ => ?_
      by_cases hs : s.sink = S.sink
      · simp [hs, hsink]
      · simp [hs]
    · rfl
  · rfl

theorem records_dropped_of_takes {id : Ref .registry} {url : Url} {sink : Ref .sink}
    (htakes : S.Takes id url sink) (w : World κ) :
    S.records (w.after (dropSubscription id url sink)) = [] := by
  obtain ⟨rfl, hurl, rfl⟩ := htakes
  rw [records, registry_after_dropSubscription, SubscriptionTable.get_take, if_pos hurl,
    List.filter_filter, List.filter_eq_nil_iff]
  simp

section Dropping

variable (id : Ref .registry) (url : Url) (sink : Ref .sink) (w : World κ)

theorem discovery_dropped :
    ((w.after (dropSubscription id url sink)).registry S.registry).discovery =
      (w.registry S.registry).discovery := by
  rw [World.registry, registries_after_dropSubscription, ← World.registry, withoutRecords,
    World.registry_setRegistry]
  split_ifs with hid
  · rw [hid]
  · rfl

theorem wiring_dropped : Discovery.notifier? (w.after (dropSubscription id url sink)) =
    Discovery.notifier? w := by
  rw [(dropSubscription_removal id url sink w).elsewhere]
  rfl

theorem client_dropped : (w.after (dropSubscription id url sink)).client = w.client := by
  rw [(dropSubscription_removal id url sink w).elsewhere]
  rfl

theorem next_dropped : (w.after (dropSubscription id url sink)).next = w.next := by
  rw [(dropSubscription_removal id url sink w).elsewhere]
  rfl

end Dropping

/-! ## Putting records in -/

theorem records_recorded {id : Ref .registry} {url : Url} {sink : Ref .sink}
    (hother : ¬S.Takes id url sink) (watcher : Watcher) (w : World κ) :
    S.records (w.after (setSubscriptions id
      ((w.registry id).subscriptions.add url.fullString ⟨sink, watcher⟩))) = S.records w := by
  show ((World.registry (w.setRegistry id _) S.registry).subscriptions.get S.url).filter _ = _
  rw [World.registry_setRegistry]
  split_ifs with hid
  · subst hid
    rw [SubscriptionTable.get_add]
    split_ifs with hurl
    · have hsink : sink ≠ S.sink := fun hsink => hother ⟨rfl, hurl, hsink⟩
      rw [List.filter_append, List.filter_cons_of_neg (by simp [hsink]), List.filter_nil,
        List.append_nil]
      rfl
    · rfl
  · rfl

theorem records_recorded_of_takes {id : Ref .registry} {url : Url} {sink : Ref .sink}
    (htakes : S.Takes id url sink) (watcher : Watcher) (w : World κ) :
    S.records (w.after (setSubscriptions id
      ((w.registry id).subscriptions.add url.fullString ⟨sink, watcher⟩))) =
        S.records w ++ [⟨sink, watcher⟩] := by
  obtain ⟨rfl, hurl, rfl⟩ := htakes
  show ((World.registry (w.setRegistry S.registry _) S.registry).subscriptions.get S.url).filter _ =
    _
  rw [World.registry_setRegistry, if_pos rfl, SubscriptionTable.get_add, if_pos hurl,
    List.filter_append]
  simp [records]

theorem discovery_recorded (id : Ref .registry) (subscriptions : SubscriptionTable) (w : World κ) :
    ((w.after (setSubscriptions id subscriptions)).registry S.registry).discovery =
      (w.registry S.registry).discovery := by
  show (World.registry (w.setRegistry id _) S.registry).discovery = _
  rw [World.registry_setRegistry]
  split_ifs with hid
  · rw [hid]
  · rfl

end Seat

end ServiceDirectory
