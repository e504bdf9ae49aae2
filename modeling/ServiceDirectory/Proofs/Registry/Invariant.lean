import ServiceDirectory.Proofs.Registry.Subscribing

/-!
# Watchers and records

The watchers of a registry on the lists of its discovery and the records in its table are
kept apart from each other, and every way through a call has to keep them in step.
`Matched` is the invariant that says so.  It holds again after each call, unless a
collaborator panics half-way.
-/

namespace ServiceDirectory

variable {κ : Type}

/-- Whether an observer is a watcher of a registry. -/
def Observer.isWatcherOf (id : Ref .registry) : Observer → Bool
  | client _ => false
  | watcher refresher => refresher.registry = id

namespace Registry

theorem isWatcherOf_of_registry {id : Ref .registry} (watcher : Watcher)
    (h : watcher.registry = id) : Observer.isWatcherOf id (.watcher watcher) = true :=
  decide_eq_true h

/-- The table is tidy, its records are filed under their watchers, and the watchers of the
registry on the lists at the leaves are those of the records, once for each of their
services. -/
structure Matched (id : Ref .registry) (w : World κ) : Prop where
  tidy : (w.registry id).subscriptions.Tidy
  filed : (w.registry id).subscriptions.Filed id
  given : SerialsGivenOut id w
  nodup : ∀ n service, ((w.observersAt n service).filter (Observer.isWatcherOf id)).Nodup
  same : ∀ n ∈ (w.registry id).discovery.notifiers w, ∀ service, ∀ watcher : Watcher,
    watcher.registry = id →
    (.watcher watcher ∈ w.observersAt n service ↔
      ∃ s ∈ (w.registry id).subscriptions.all, s.watcher = watcher ∧ service ∈ s.services)

namespace Matched

variable {id : Ref .registry} {w w' : World κ}

/-- The watchers on a list are a rearrangement of those on record for the service. -/
theorem perm (h : Matched id w) {n : Ref .notifier}
    (hn : n ∈ (w.registry id).discovery.notifiers w) (service : String) :
    ((w.observersAt n service).filter (Observer.isWatcherOf id)).Perm
      (((w.registry id).subscriptions.all.filter fun s => service ∈ s.services).map
        fun s => .watcher s.watcher) := by
  have hrecords : (((w.registry id).subscriptions.all.filter fun s => service ∈ s.services).map
      fun s => Observer.watcher s.watcher).Nodup := by
    have hwatchers := h.tidy.watchers_nodup h.filed
    have hobservers : ((w.registry id).subscriptions.all.map
        fun s => Observer.watcher s.watcher).Nodup := by
      have hmap := hwatchers.map (f := Observer.watcher) fun a b hab => Observer.watcher.inj hab
      rwa [List.map_map] at hmap
    exact hobservers.sublist (List.filter_sublist.map _)
  refine (List.perm_ext_iff_of_nodup (h.nodup n service) hrecords).2 fun o => ?_
  rw [List.mem_filter, List.mem_map]
  cases o with
  | client listener => simp [Observer.isWatcherOf]
  | watcher watcher =>
    constructor
    · rintro ⟨hmem, howner⟩
      obtain ⟨s, hs, hwatcher, hservice⟩ :=
        (h.same n hn service watcher (of_decide_eq_true howner)).1 hmem
      exact ⟨s, List.mem_filter.2 ⟨hs, decide_eq_true hservice⟩, congrArg _ hwatcher⟩
    · rintro ⟨s, hs, hwatcher⟩
      obtain ⟨hs, hservice⟩ := List.mem_filter.1 hs
      obtain ⟨url, hget⟩ := (h.tidy.mem_all s).1 hs
      obtain rfl := Observer.watcher.inj hwatcher
      have hregistry := (h.filed url s hget).1
      exact ⟨(h.same n hn service _ hregistry).2 ⟨s, hs, rfl, of_decide_eq_true hservice⟩,
        isWatcherOf_of_registry _ hregistry⟩

theorem aside (h : Matched id w) (haside : Aside id (Observer.isWatcherOf id) w w') :
    Matched id w' where
  tidy := haside.registry ▸ h.tidy
  filed := haside.registry ▸ h.filed
  given := h.given.aside haside isWatcherOf_of_registry
  nodup n service := by
    rw [haside.observers]
    exact h.nodup n service
  same n hn service watcher hregistry := by
    rw [haside.registry, haside.notifiers_eq] at hn
    rw [haside.registry, haside.mem_iff (isWatcherOf_of_registry watcher hregistry)]
    exact h.same n hn service watcher hregistry

/-- Ending the subscriptions of a sink keeps watchers and records in step. -/
theorem dropSubscription (h : Matched id w) (url : Url) (sink : Ref .sink) :
    Matched id (w.after (dropSubscription id url sink)) := by
  have hremoval := dropSubscription_removal id url sink w
  have hregistry := registry_after_dropSubscription id url sink w
  have hsublist : ∀ n service,
      ((w.after (Registry.dropSubscription id url sink)).observersAt n service).Sublist
        (w.observersAt n service) := by
    intro n service
    rw [hremoval.observers]
    split
    · exact List.filter_sublist
    · exact List.Sublist.refl _
  have htidy := h.tidy.take url.fullString sink
  refine ⟨by rw [hregistry]; exact htidy, by rw [hregistry]; exact h.filed.take _ _,
    h.given.dropSubscription url sink, ?_, ?_⟩
  · intro n service
    exact (h.nodup n service).sublist ((hsublist n service).filter _)
  · intro n hn service watcher hwatcher
    rw [hregistry, hremoval.notifiers_eq] at hn
    have hleaf : n ∈ (w.registry id).discovery.notifiers w := hn
    rw [hregistry, hremoval.observers, if_pos hleaf, List.mem_filter]
    show .watcher watcher ∈ w.observersAt n service ∧ _ ↔ _
    rw [h.same n hleaf service watcher hwatcher]
    have hkept : ∀ s, s ∈ ((w.registry id).subscriptions.take url.fullString sink).2.all ↔ _ :=
      fun _ => h.tidy.mem_all_take h.filed url.fullString sink
    simp only [Bool.not_eq_true', decide_eq_false_iff_not, hkept]
    constructor
    · rintro ⟨⟨s, hs, rfl, hservice⟩, hstays⟩
      refine ⟨s, ⟨hs, ?_⟩, rfl, hservice⟩
      intro s' hs' hsame
      refine hstays ⟨s', hs', congrArg _ hsame.symm, ?_⟩
      rwa [Subscription.services, hsame]
    · rintro ⟨s, ⟨hs, hstays⟩, rfl, hservice⟩
      refine ⟨⟨s, hs, rfl, hservice⟩, ?_⟩
      rintro ⟨s', hs', hsame, -⟩
      exact hstays s' hs' (Observer.watcher.inj hsame).symm

/-- Recording a subscription whose watcher is in place brings watchers and records back in
step. -/
theorem record (h : Matched id w) {host : Host κ} {url : Url} {sink : Ref .sink}
    {watcher : Watcher} (hplace : InPlace host id (Observer.isWatcherOf id) url sink watcher w w')
    (hnew : ∀ s ∈ (w.registry id).subscriptions.get url.fullString, s.sink ≠ sink) :
    Matched id (w'.after (setSubscriptions id
      ((w'.registry id).subscriptions.add url.fullString ⟨sink, watcher⟩))) := by
  have hrest := hplace.varies.rest
  have hother : ∀ (x : Watcher), x.registry = id → x ≠ watcher → ∀ n service,
      (.watcher x ∈ w'.observersAt n service ↔ .watcher x ∈ w.observersAt n service) := by
    intro x hx hne
    refine hrest.mem_iff ?_
    simp [isWatcherOf_of_registry x hx, hne]
  have hfresh : ∀ n service, .watcher watcher ∉ w.observersAt n service := by
    intro n service hmem
    exact Nat.not_lt.2 hplace.fresh (h.given n service watcher hplace.registry hmem)
  rw [hrest.registry]
  have hregistry : (w'.after (setSubscriptions id
      ((w.registry id).subscriptions.add url.fullString ⟨sink, watcher⟩))).registry id =
      { w.registry id with subscriptions :=
          (w.registry id).subscriptions.add url.fullString ⟨sink, watcher⟩ } := by
    simp [setSubscriptions, hrest.registry]
  have hmem_all : ∀ {s}, s ∈ ((w.registry id).subscriptions.add url.fullString
      ⟨sink, watcher⟩).all ↔ s ∈ (w.registry id).subscriptions.all ∨ s = ⟨sink, watcher⟩ :=
    h.tidy.mem_all_add url.fullString hnew
  refine ⟨by rw [hregistry]; exact h.tidy.add url.fullString hnew, ?_, ?_, ?_, ?_⟩
  · rw [hregistry]
    exact h.filed.add hplace.registry hplace.subscribed hplace.sink
  · intro n service x hx hmem
    by_cases hne : x = watcher
    · rw [hne]
      exact hplace.given
    · exact Nat.lt_of_lt_of_le (h.given n service x hx ((hother x hx hne n service).1 hmem))
        hrest.next_le
  · exact hplace.varies.nodup h.nodup
  · intro n hn service x hx
    rw [hregistry] at hn ⊢
    have hleaf : n ∈ (w.registry id).discovery.notifiers w := by
      rw [← hrest.notifiers_eq]
      exact hn
    show .watcher x ∈ w'.observersAt n service ↔ _
    by_cases hne : x = watcher
    · subst hne
      constructor
      · intro hmem
        have hservice : service ∈ x.services := by
          rcases hplace.varies.only n service hmem with hbefore | hplaced
          · exact absurd hbefore (hfresh n service)
          · exact hplaced.2
        exact ⟨⟨sink, x⟩, hmem_all.2 (Or.inr rfl), rfl, hservice⟩
      · rintro ⟨s, -, rfl, hservice⟩
        exact hplace.everywhere n hleaf service hservice
    · rw [hother x hx hne, h.same n hleaf service x hx]
      constructor
      · rintro ⟨s, hs, hsame, hservice⟩
        exact ⟨s, hmem_all.2 (Or.inl hs), hsame, hservice⟩
      · rintro ⟨s, hs, hsame, hservice⟩
        rcases hmem_all.1 hs with hs | rfl
        · exact ⟨s, hs, hsame, hservice⟩
        · exact absurd hsame.symm hne

end Matched

end Registry

end ServiceDirectory
