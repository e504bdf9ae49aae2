import ServiceDirectory.Proofs.Freshness.Evolution
import ServiceDirectory.Proofs.Keys

/-!
# Making a site

A registry over a source in memory is a site as it stands.  A backed source puts a bridge on
its dispatcher when it is made, so a registry over a new one is a site too.  Collaborators
that only keep count of what they are asked show that all this can be had.
-/

namespace ServiceDirectory

variable {σ κ : Type}

theorem Roster.reach_of_mem_bucket {r : Roster} {registration : Registration} {serial : Nat}
    {n : Ref .notifier} (hmem : registration ∈ r.bucket EventKind.membership.name)
    (hlistener : registration.listener = .bridge serial n) : Buckets.Reach n r.buckets.entries := by
  obtain ⟨list, hlist, hmem⟩ := OrderedMap.mem_getD_iff.1 hmem
  have hentry : (EventKind.membership.name, list) ∈ r.buckets.entries :=
    OrderedMap.mem_of_lookupIn hlist
  have hnamed : EventKind.membership.isNamedAbove EventKind.membership.name = true := by decide
  exact ⟨registration, List.mem_flatMap.2 ⟨_, List.mem_filter.2 ⟨hentry, hnamed⟩, hmem⟩, serial,
    hlistener⟩

theorem Roster.reach_add (r : Roster) (priority : Listener → Int) (serial : Nat)
    (n : Ref .notifier) :
    Buckets.Reach n
      (r.add priority EventKind.membership.name (.bridge serial n)).buckets.entries := by
  obtain ⟨registration, hmem, hlistener⟩ :=
    r.exists_mem_bucket_add priority EventKind.membership.name (.bridge serial n)
  exact reach_of_mem_bucket hmem hlistener

/-- A backed source is made in four steps, none of which fails. -/
theorem BackedSource.after_create (name : String) (backend : Ref .backend)
    (dispatcher : Ref .dispatcher) (notifier : Ref .notifier) (w : World κ) :
    w.after (create name backend dispatcher notifier).run =
      World.setSource
        { (w.setDispatcher dispatcher { w.dispatcher dispatcher with
            roster := (w.dispatcher dispatcher).roster.add w.priority
              EventKind.membership.name (.bridge w.next notifier) }).note (.listenerAdded EventKind.membership.name) with
          next := w.next + 2 }
        ⟨w.next + 1⟩ ⟨name, backend, dispatcher, notifier, []⟩ := rfl

/-- Nobody listens to the only notifier of a world yet. -/
theorem World.observersAt_of_new {w : World κ} {n : Ref .notifier}
    (h : w.notifiers = OrderedMap.empty.insert n .empty) (n' : Ref .notifier) (service : String) :
    w.observersAt n' service = [] := by
  have haudience : w.audience n' = .empty := by
    rw [World.audience, h, OrderedMap.getD_insert]
    split_ifs <;> rfl
  rw [World.observersAt, haudience, Audience.observers_empty]

/-- The world in which a backend has just accepted a watch. -/
def World.accepting (w : World (Outside σ)) (b : Ref .backend) (service : String)
    (hook : WatchHook) : World (Outside σ) :=
  { w with client := { w.client with
      accepted := fun b' service' =>
        if b' = b ∧ service' = service then hook :: w.client.accepted b' service'
        else w.client.accepted b' service' } }

/-- Collaborators that keep count of what they are asked.  Every interface belongs to the one
service that `owner` names, and sinks react to deliveries. -/
def Host.attentive (owner : σ → String) (react : Delivery → Run (Outside σ) Unit) :
    Host (Outside σ) where
  onEvent _ _ := pure none
  deliver delivery := do
    modify fun w => w.starting delivery
    react delivery
    return none
  handOff _ task := modify fun w => w.handing task
  command _ _ := pure (.ok ())
  services _ := pure (.ok [])
  instances b service := do return .ok ((← get).client.listed b service)
  watch b service hook := do
    modify fun w => w.accepting b service hook
    return .ok ()
  lookup _ _ _ := do return .ok (some (owner (← get).client.own))
  enter _ := pure true
  leave _ := pure ()

namespace Site

theorem Still.accepting {S : Site} (w : World (Outside σ)) (b : Ref .backend) (service : String)
    (hook : WatchHook) : S.Still w (w.accepting b service hook) := by
  refine Still.withClient w rfl ?_ (fun _ _ => rfl) fun _ h => h
  intro b' service' hook' hhook
  dsimp only
  split_ifs
  · exact List.mem_cons_of_mem _ hhook
  · exact hhook

theorem attentive_behaves {S : Site} {M : World (Outside σ) → World (Outside σ) → Prop}
    {owner : σ → String} {react : Delivery → Run (Outside σ) Unit} (hrefl : ∀ w, M w w)
    (hstill : ∀ {w w'}, S.Still w w' → M w w')
    (hreact : ∀ delivery w, M w (w.after (react delivery))) : S.Behaves M (Host.attentive owner react) where
  onEvent _ _ w := hrefl w
  deliver delivery w := hreact delivery (w.starting delivery)
  handOff _ task w := hrefl (w.handing task)
  command _ _ w := hrefl w
  lookup _ _ _ w := hrefl w
  watch b service hook w := hstill (Still.accepting w b service hook)
  watch_ok b service hook w _ := by
    show hook ∈ (w.accepting b service hook).client.accepted b service
    simp [World.accepting]
  instances _ _ w := Still.refl w
  instances_ok _ _ _ := rfl
  enter _ w := Still.refl w
  enter_true _ _ := rfl
  leave _ w := Still.refl w

theorem attentive_orderly (S : Site) (owner : σ → String) :
    S.Orderly 0 (Host.attentive owner fun _ => pure ()) :=
  attentive_behaves (fun _ => .refl) (fun hstill => .single (.elsewhere hstill))
    fun _ _ => .refl

theorem wired_memory (w : World (Outside σ)) (id : Ref .registry) (m : Ref .memory)
    (h : (w.registry id).discovery = .memory m) :
    (⟨id, .memory m, (w.memory m).notifier⟩ : Site).Wired w :=
  ⟨h, rfl, fun _ hb => (nomatch hb), fun _ hb => (nomatch hb)⟩

/-- A registry that is made for a new backed source. -/
theorem wired_create (name : String) (backend : Ref .backend) (dispatcher : Ref .dispatcher)
    (notifier : Ref .notifier) (url : Url) (group : String) (metadata : Ref .metadata)
    (configuration : Ref .configuration) (w : World (Outside σ)) :
    let v := w.after (BackedSource.create name backend dispatcher notifier).run
    (⟨⟨w.next + 2⟩, .backed ⟨w.next + 1⟩, notifier⟩ : Site).Wired
      (v.after (Registry.create url group metadata (.backed ⟨w.next + 1⟩) configuration)) := by
  intro v
  have hsource : (v.after (Registry.create url group metadata (.backed ⟨w.next + 1⟩)
      configuration)).source ⟨w.next + 1⟩ = ⟨name, backend, dispatcher, notifier, []⟩ := by
    show v.source ⟨w.next + 1⟩ = _
    simp only [v]
    rw [BackedSource.after_create, World.source_setSource, if_pos rfl]
  refine ⟨?_, ?_, ?_, ?_⟩
  · show (World.registry (World.setRegistry _ ⟨w.next + 2⟩ _) ⟨w.next + 2⟩).discovery = _
    rw [World.registry_setRegistry, if_pos rfl]
  · rw [Discovery.notifier?, hsource]
  · intro b hb
    obtain rfl : ⟨w.next + 1⟩ = b := Discovery.backed.inj hb
    rw [hsource]
    show Buckets.Reach notifier (v.dispatcher dispatcher).roster.buckets.entries
    have hdispatcher : (v.dispatcher dispatcher).roster =
        (w.dispatcher dispatcher).roster.add w.priority EventKind.membership.name
          (.bridge w.next notifier) := by
      simp only [v]
      rw [BackedSource.after_create]
      show (World.dispatcher (World.setDispatcher w dispatcher _) dispatcher).roster = _
      rw [World.dispatcher_setDispatcher, if_pos rfl]
    rw [hdispatcher]
    exact Roster.reach_add _ _ w.next notifier
  · intro b hb service hservice
    obtain rfl : ⟨w.next + 1⟩ = b := Discovery.backed.inj hb
    rw [hsource] at hservice
    cases hservice

end Site

end ServiceDirectory
