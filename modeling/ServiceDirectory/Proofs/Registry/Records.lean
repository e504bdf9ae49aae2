import ServiceDirectory.Proofs.Registry.Collecting

/-!
# What watching does not touch

Watching writes to the lists of observers, to the watches of backend sources, to the log
and to the supply of serial numbers.  A relation that disregards all these holds between
the worlds before and after, however the work ends, when the collaborators keep to it.
-/

namespace ServiceDirectory

variable {κ : Type}

/-- A relation between worlds that does not look at what watching writes to. -/
structure DisregardsWatching (R : World κ → World κ → Prop) : Prop where
  refl : ∀ w, R w w
  trans : ∀ {u v w}, R u v → R v w → R u w
  watching : ∀ (w : World κ) (next : Nat) (journal : List Notice)
    (notifiers : OrderedMap (Ref .notifier) Audience)
    (backed : OrderedMap (Ref .backed) BackedSource),
    R w { w with next, journal, notifiers, backed }

section KeepingTo

variable {host : Host κ} {R : World κ → World κ → Prop}

namespace DisregardsWatching

theorem removal (hR : DisregardsWatching R) {ns : List (Ref .notifier)}
    {gone : Observer → String → Bool} {w w' : World κ} (h : Removal ns gone w w') : R w w' := by
  rw [h.elsewhere]
  exact hR.watching w w.next w.journal w'.notifiers w.backed

theorem note (hR : DisregardsWatching R) (w : World κ) (n : Notice) : R w (w.note n) :=
  hR.watching w w.next (n :: w.journal) w.notifiers w.backed

theorem addObserver_backed (hR : DisregardsWatching R) (hhost : host.KeepsTo R)
    (b : Ref .backed) (service : String) (o : Observer) (w : World κ) :
    R w (w.after (BackedSource.addObserver host b service o).run) := by
  have hadd : R w (w.after (Notifier.add (w.source b).notifier service o)) :=
    hR.watching w w.next w.journal _ w.backed
  have hwatch := hR.trans hadd (hhost.watch (w.source b).backend service (w.source b).hook _)
  rcases BackedSource.addObserver_cases host b service o w with
    ⟨-, -, hfinal⟩ | ⟨-, -, -, hfinal⟩ | ⟨_, -, -, hfinal⟩ | ⟨_, -, -, hfinal⟩
  · rw [hfinal]
    exact hadd
  · rw [hfinal]
    exact hR.trans hwatch (hR.watching _ _ _ _ _)
  · rw [hfinal]
    exact hR.trans hwatch (hR.watching _ _ _ _ _)
  · rw [hfinal]
    exact hwatch

theorem addObserver (hR : DisregardsWatching R) (hhost : host.KeepsTo R) (d : Discovery)
    (service : String) (o : Observer) (w : World κ) :
    R w (w.after (d.addObserver host service o).run) := by
  induction d using Discovery.treeInduction generalizing w with
  | memory m => exact hR.watching w w.next w.journal _ w.backed
  | backed b => exact hR.addObserver_backed hhost b service o w
  | composite c sources ih =>
    show R w (w.after (Discovery.addObserverToAll host service o sources).run)
    induction sources generalizing w with
    | nil => exact hR.refl w
    | cons source rest ihRest =>
      have hfirst := ih source (by simp) w
      rw [Discovery.addObserverToAll]
      cases hresult : w.result (source.addObserver host service o).run with
      | error stop =>
        rw [World.after_bind_of_error hresult]
        exact hfirst
      | ok _ =>
        rw [World.after_bind_of_ok hresult]
        exact hR.trans hfirst (ihRest (fun s hs => ih s (by simp [hs])) _)

theorem watchEach (hR : DisregardsWatching R) (hhost : host.KeepsTo R) (d : Discovery)
    (watcher : Watcher) (tried services : List String) (w : World κ) :
    R w (w.after (Registry.watchEach host d watcher tried services).run) := by
  induction services generalizing tried w with
  | nil => exact hR.refl w
  | cons service rest ih =>
    have hadd := hR.addObserver hhost d service (.watcher watcher) w
    rcases Registry.watchEach_cases host d watcher tried service rest w with
      ⟨-, -, hfinal⟩ | ⟨_, -, -, hfinal⟩ | ⟨_, -, -, hfinal⟩
    · rw [hfinal]
      exact hR.trans hadd (ih _ _)
    · rw [hfinal]
      exact hR.trans hadd (hR.removal (Registry.unwatch_removal d _ watcher _))
    · rw [hfinal]
      exact hadd

/-- Whatever comes of watching and collecting, the relation holds. -/
theorem watchAndCollect (hR : DisregardsWatching R) (hhost : host.KeepsTo R)
    (id : Ref .registry) (url : Url) (sink : Ref .sink) (w : World κ) :
    R w (w.after (Registry.watchAndCollect host id url sink).run) := by
  have hresolve := Registry.serviceNames_keepsTo hhost.lookup id url.serviceInterface w
  rcases Registry.watchAndCollect_cases host id url sink w with ⟨_, -, hfinal⟩ | ⟨services, hways⟩
  · rw [hfinal]
    exact hresolve
  dsimp only at hways
  generalize w.after (Registry.serviceNames host id url.serviceInterface).run = v at *
  generalize (v.registry id).discovery = d at hways
  have hstart : R w { v with next := v.next + 1 } :=
    hR.trans hresolve (hR.watching v (v.next + 1) v.journal v.notifiers v.backed)
  have hwatch := hR.trans hstart
    (hR.watchEach hhost d (Registry.nextWatcher v id url sink services) [] services _)
  have hcollect := hR.trans hwatch
    (instanceUrls_keepsTo hhost.instances hR.refl hR.trans d url services _)
  rcases hways with ⟨_, -, -, hfinal⟩ | ⟨_, -, -, hfinal⟩ | ⟨_, -, -, -, hfinal⟩
  · rw [hfinal]
    exact hwatch
  · rw [hfinal]
    exact hR.trans hcollect (hR.removal (Registry.unwatch_removal d services _ _))
  · rw [hfinal]
    exact hcollect

end DisregardsWatching

end KeepingTo

namespace Registry

/-- The record of a registry and the subscribed URLs of its metadata store are the same. -/
structure RecordsKept (id : Ref .registry) (w w' : World κ) : Prop where
  registry : w'.registry id = w.registry id
  subscribed : (w'.store (w.registry id).metadata).subscribed =
    (w.store (w.registry id).metadata).subscribed

namespace RecordsKept

variable {id : Ref .registry}

theorem disregardsWatching (id : Ref .registry) :
    DisregardsWatching (RecordsKept (κ := κ) id) where
  refl _ := ⟨rfl, rfl⟩
  trans h h' := by
    refine ⟨h'.registry.trans h.registry, ?_⟩
    have hsubscribed := h'.subscribed
    rw [h.registry] at hsubscribed
    exact hsubscribed.trans h.subscribed
  watching _ _ _ _ _ := ⟨rfl, rfl⟩

end RecordsKept

end Registry

end ServiceDirectory
