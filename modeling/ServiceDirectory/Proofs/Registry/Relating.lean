import ServiceDirectory.Proofs.Dispatcher.Reacting
import ServiceDirectory.Proofs.Registry.Subscribing

/-!
# What subscribing keeps to

A call that subscribes takes many small steps: it puts one watcher on lists and may take it off
again, it asks collaborators, it calls the sink, and it writes to its own table and to the
metadata store.  A relation between worlds that each of these steps keeps to is kept to by the
whole call, however it ends.
-/

namespace ServiceDirectory

variable {κ : Type}

/-- What is kept to while an observer is put on lists and taken off them.  It may be put on the
lists at some `places` only. -/
structure Tolerates (R : World κ → World κ → Prop) (o : Observer)
    (places : Ref .notifier → String → Prop) : Prop where
  refl : ∀ w, R w w
  trans : ∀ {u v w}, R u v → R v w → R u w
  /-- A source whose leaves are at the places does not come to have leaves elsewhere. -/
  stays : ∀ {w w'}, R w w' → ∀ (d : Discovery) (service : String),
    (∀ n ∈ d.notifiers w, places n service) → ∀ n ∈ d.notifiers w', places n service
  add : ∀ n service w, places n service → R w (w.after (Notifier.add n service o))
  remove : ∀ n service w, R w (w.after (Notifier.remove n service o))
  setWatched : ∀ b service w, R w (w.after (BackedSource.setWatched b service))
  note : ∀ w n, R w (World.note w n)

theorem Discovery.notifiers_congr {w w' : World κ} (h : notifier? w' = notifier? w)
    (d : Discovery) : d.notifiers w' = d.notifiers w := by
  rw [notifiers, notifiers, h]

/-- The leaves of a source stay where they are when the wiring does. -/
theorem Discovery.stays_of_wiring {w w' : World κ} (h : notifier? w' = notifier? w)
    {places : Ref .notifier → String → Prop} (d : Discovery) (service : String)
    (hplaces : ∀ n ∈ d.notifiers w, places n service) : ∀ n ∈ d.notifiers w', places n service := by
  rwa [notifiers_congr h]

/-- What is kept to once a serial number has been given out. -/
def Past (serial : Nat) (R : World κ → World κ → Prop) (w w' : World κ) : Prop :=
  serial < w.next → serial < w'.next ∧ R w w'

theorem Past.of_kept {serial : Nat} {R : World κ → World κ → Prop}
    (hnext : ∀ {w w'}, R w w' → w.next ≤ w'.next) {w w' : World κ} (h : R w w') :
    Past serial R w w' :=
  fun hserial => ⟨Nat.lt_of_lt_of_le hserial (hnext h), h⟩

namespace Tolerates

/-- What is tolerated at all times is tolerated once a number has been given out. -/
theorem past {R : World κ → World κ → Prop} {o : Observer}
    (hR : Tolerates R o fun _ _ => True) (hnext : ∀ {w w'}, R w w' → w.next ≤ w'.next)
    (serial : Nat) : Tolerates (Past serial R) o fun _ _ => True where
  refl w hserial := ⟨hserial, hR.refl w⟩
  trans h h' hserial := by
    obtain ⟨hmiddle, hfirst⟩ := h hserial
    obtain ⟨hlast, hsecond⟩ := h' hmiddle
    exact ⟨hlast, hR.trans hfirst hsecond⟩
  stays _ _ _ _ _ _ := trivial
  add n service w hplace := .of_kept hnext (hR.add n service w hplace)
  remove n service w := .of_kept hnext (hR.remove n service w)
  setWatched b service w := .of_kept hnext (hR.setWatched b service w)
  note w n := .of_kept hnext (hR.note w n)

variable {host : Host κ} {R : World κ → World κ → Prop} {o : Observer} {watcher : Watcher}
  {places : Ref .notifier → String → Prop}

theorem addObserver_backed (hR : Tolerates R o places)
    (hwatch : ∀ b service hook w, R w (w.after (host.watch b service hook))) (b : Ref .backed)
    (service : String) (w : World κ) (hplace : places (w.source b).notifier service) :
    R w (w.after (BackedSource.addObserver host b service o).run) := by
  have hadd := hR.add _ service w hplace
  have hasked := hR.trans hadd (hwatch (w.source b).backend service (w.source b).hook _)
  rcases BackedSource.addObserver_cases host b service o w with
    ⟨-, -, hfinal⟩ | ⟨-, -, -, hfinal⟩ | ⟨_, -, -, hfinal⟩ | ⟨_, -, -, hfinal⟩
  · rw [hfinal]
    exact hadd
  · rw [hfinal]
    exact hR.trans hasked (hR.trans (hR.setWatched b service _) (hR.note _ _))
  · rw [hfinal]
    exact hR.trans hasked (hR.remove _ _ _)
  · rw [hfinal]
    exact hasked

theorem addObserver (hR : Tolerates R o places)
    (hwatch : ∀ b service hook w, R w (w.after (host.watch b service hook))) (d : Discovery)
    (service : String) (w : World κ) (hplaces : ∀ n ∈ d.notifiers w, places n service) :
    R w (w.after (d.addObserver host service o).run) := by
  induction d using Discovery.treeInduction generalizing w with
  | memory m => exact hR.add _ service w (hplaces _ (by simp))
  | backed b => exact hR.addObserver_backed hwatch b service w (hplaces _ (by simp))
  | composite c sources ih =>
    rw [Discovery.notifiers_composite] at hplaces
    show R w (w.after (Discovery.addObserverToAll host service o sources).run)
    induction sources generalizing w with
    | nil => exact hR.refl w
    | cons source rest ihRest =>
      have hfirst := ih source (by simp) w fun n hn => hplaces n (by simp [hn])
      rw [Discovery.addObserverToAll]
      cases hresult : w.result (source.addObserver host service o).run with
      | error stop =>
        rw [World.after_bind_of_error hresult]
        exact hfirst
      | ok _ =>
        rw [World.after_bind_of_ok hresult]
        refine hR.trans hfirst (ihRest (fun s hs => ih s (by simp [hs])) _ ?_)
        have hrest : ∀ n ∈ (Discovery.composite c rest).notifiers w, places n service := by
          intro n hn
          rw [Discovery.notifiers_composite] at hn
          exact hplaces n (by simp [hn])
        have hstays := hR.stays hfirst (.composite c rest) service hrest
        rwa [Discovery.notifiers_composite] at hstays

theorem removeObserver (hR : Tolerates R o places) (d : Discovery) (service : String)
    (w : World κ) : R w (w.after (d.removeObserver service o)) := by
  induction d using Discovery.treeInduction generalizing w with
  | memory m => exact hR.remove _ service w
  | backed b => exact hR.remove _ service w
  | composite c sources ih =>
    show R w (w.after (Discovery.removeObserverFromAll service o sources))
    induction sources generalizing w with
    | nil => exact hR.refl w
    | cons source rest ihRest =>
      exact hR.trans (ih source (by simp) w) (ihRest (fun s hs => ih s (by simp [hs])) _)

theorem unwatch (hR : Tolerates R (.watcher watcher) places) (d : Discovery)
    (services : List String) (w : World κ) :
    R w (w.after (Registry.unwatch d services watcher)) := by
  induction services generalizing w with
  | nil => exact hR.refl w
  | cons service rest ih => exact hR.trans (hR.removeObserver d service w) (ih _)

theorem watchEach (hR : Tolerates R (.watcher watcher) places)
    (hwatch : ∀ b service hook w, R w (w.after (host.watch b service hook))) (d : Discovery)
    (tried services : List String) (w : World κ)
    (hplaces : ∀ n ∈ d.notifiers w, ∀ service ∈ services, places n service) :
    R w (w.after (Registry.watchEach host d watcher tried services).run) := by
  induction services generalizing tried w with
  | nil => exact hR.refl w
  | cons service rest ih =>
    have hadd := hR.addObserver hwatch d service w fun n hn => hplaces n hn service (by simp)
    rcases Registry.watchEach_cases host d watcher tried service rest w with
      ⟨-, -, hfinal⟩ | ⟨_, -, -, hfinal⟩ | ⟨_, -, -, hfinal⟩
    · rw [hfinal]
      refine hR.trans hadd (ih _ _ fun n hn service' hservice => ?_)
      exact hR.stays hadd d service'
        (fun n hn => hplaces n hn service' (List.mem_cons_of_mem _ hservice)) n hn
    · rw [hfinal]
      exact hR.trans hadd (hR.unwatch d _ _)
    · rw [hfinal]
      exact hadd

end Tolerates

/-- A watcher that a call has made knows what the call is about. -/
theorem Registry.watchAndCollect_watcher {host : Host κ} {id : Ref .registry} {url : Url}
    {sink : Ref .sink} {watcher : Watcher} {urls : List Url} {w : World κ}
    (hok : w.result (watchAndCollect host id url sink).run = .ok (watcher, urls)) :
    watcher.registry = id ∧ watcher.subscribed = url ∧ watcher.sink = sink := by
  rcases watchAndCollect_cases host id url sink w with
    ⟨_, hresult, -⟩ | ⟨services, ⟨_, -, hresult, -⟩ | ⟨_, -, hresult, -⟩ | ⟨_, -, -, hresult, -⟩⟩
  · rw [hresult] at hok
    cases hok
  · rw [hresult] at hok
    cases hok
  · rw [hresult] at hok
    cases hok
  · rw [hresult] at hok
    cases hok
    exact ⟨rfl, rfl, rfl⟩

/-- The steps of a call that subscribes a sink to a URL. -/
structure Host.SubscribesWithin (host : Host κ) (R : World κ → World κ → Prop)
    (id : Ref .registry) (url : Url) (sink : Ref .sink) : Prop where
  log : DisregardsLog R
  next_le : ∀ {w w'}, R w w' → w.next ≤ w'.next
  /-- The watcher of the call comes to lists when its number has been given out. -/
  tolerates : Registry.isMetadataUrl url = false → ∀ serial services,
    Tolerates (Past serial R) (.watcher ⟨serial, id, url, services, sink⟩) fun _ _ => True
  lookup : ∀ c key group w, R w (w.after (host.lookup c key group))
  watch : ∀ b service hook w, R w (w.after (host.watch b service hook))
  instances : ∀ b service w, R w (w.after (host.instances b service))
  /-- The sink is called for a watcher of its own, or with an answer from the metadata store. -/
  deliver : ∀ urls (watcher : Option Watcher) w,
    (∀ x, watcher = some x → Registry.isMetadataUrl url = false ∧ x.registry = id ∧
      x.subscribed = url ∧ x.sink = sink) →
      R w (w.after (host.deliver ⟨url, sink, urls, watcher⟩))
  fresh : ∀ w : World κ, R w { w with next := w.next + 1 }
  drop : Registry.isMetadataUrl url = false →
    ∀ w, R w (w.after (Registry.dropSubscription id url sink))
  record : Registry.isMetadataUrl url = false → ∀ (watcher : Watcher) (w : World κ),
    watcher.registry = id → watcher.subscribed = url → watcher.sink = sink →
      R w (w.after (Registry.setSubscriptions id
        ((w.registry id).subscriptions.add url.fullString ⟨sink, watcher⟩)))
  store : ∀ m w, R w (w.after (MetadataStore.subscribeUrl m url))

namespace Host.SubscribesWithin

variable {host : Host κ} {R : World κ → World κ → Prop} {id : Ref .registry} {url : Url}
  {sink : Ref .sink} (h : host.SubscribesWithin R id url sink)

include h

theorem watchAndCollect (hurl : Registry.isMetadataUrl url = false) (w : World κ) :
    R w (w.after (Registry.watchAndCollect host id url sink).run) := by
  have hresolve := Registry.serviceNames_keepsTo h.lookup id url.serviceInterface w
  rcases Registry.watchAndCollect_cases host id url sink w with ⟨_, -, hfinal⟩ | ⟨services, hways⟩
  · rw [hfinal]
    exact hresolve
  dsimp only at hways
  generalize w.after (Registry.serviceNames host id url.serviceInterface).run = v at *
  generalize (v.registry id).discovery = d at hways
  have htolerates := h.tolerates hurl v.next services
  have hstart := h.log.trans hresolve (h.fresh v)
  have hpast := htolerates.watchEach
    (fun b service hook w => .of_kept h.next_le (h.watch b service hook w)) d [] services
    { v with next := v.next + 1 } fun _ _ _ _ => trivial
  obtain ⟨hnumber, hwatch⟩ := hpast (Nat.lt_succ_self v.next)
  have hwatched := h.log.trans hstart hwatch
  have hasked := instanceUrls_keepsTo h.instances h.log.refl h.log.trans d url services
    (World.after { v with next := v.next + 1 }
      (Registry.watchEach host d (Registry.nextWatcher v id url sink services) [] services).run)
  have hcollected := h.log.trans hwatched hasked
  rcases hways with ⟨_, -, -, hfinal⟩ | ⟨_, -, -, hfinal⟩ | ⟨_, -, -, -, hfinal⟩
  · rw [hfinal]
    exact hwatched
  · rw [hfinal]
    have hundone := htolerates.unwatch d services _
      (Nat.lt_of_lt_of_le hnumber (h.next_le hasked))
    exact h.log.trans hcollected hundone.2
  · rw [hfinal]
    exact hcollected

theorem deliverInstances (hurl : Registry.isMetadataUrl url = false) (w : World κ) :
    R w (w.after (Registry.deliverInstances host id url sink).run) := by
  have hcollected := h.watchAndCollect hurl w
  rcases Registry.deliverInstances_cases host id url sink w with
    ⟨_, -, -, hfinal⟩ | ⟨watcher, urls, hcollect, hways⟩
  · rw [hfinal]
    exact hcollected
  · obtain ⟨hid, hsubscribed, hsink⟩ := Registry.watchAndCollect_watcher hcollect
    have htold := h.log.trans (h.log.trans hcollected (h.log.note _ _)) (h.deliver urls
      (some watcher) ((w.after (Registry.watchAndCollect host id url sink).run).note
        (.instancesDelivered url.fullString watcher.services urls.length))
      fun _ hx => Option.some.inj hx ▸ ⟨hurl, hid, hsubscribed, hsink⟩)
    rcases hways with ⟨_, -, -, hfinal⟩ | ⟨-, -, hfinal⟩
    · rw [hfinal]
      exact htold
    · rw [hfinal]
      exact h.log.trans htold (h.record hurl watcher _ hid hsubscribed hsink)

theorem deliverMetadata (w : World κ) :
    R w (w.after (Registry.deliverMetadata host id url sink).run) := by
  rw [Registry.deliverMetadata, World.after_get_bind_except]
  dsimp only
  split
  · exact h.log.refl w
  · rename_i urls _
    rw [World.after_ofRun_bind, World.after_note, World.after_ofReaction]
    exact h.log.trans (h.log.note w _)
      (h.deliver urls none _ fun x hx => absurd hx.symm (Option.some_ne_none x))

/-- However the call ends, it has kept to what its steps keep to. -/
theorem subscribe (w : World κ) : R w (w.after (Registry.subscribe host id url sink).run) := by
  have hanswered : R w (w.after (Registry.answer host id url sink).run) := by
    cases hurl : Registry.isMetadataUrl url with
    | true =>
      rw [Registry.answer_metadata hurl]
      exact h.deliverMetadata w
    | false =>
      rw [Registry.after_answer_instances hurl]
      exact h.log.trans (h.drop hurl w) (h.deliverInstances hurl _)
  rcases Registry.subscribe_cases host id url sink w with ⟨_, -, -, hfinal⟩ | ⟨-, -, hfinal⟩
  · rw [hfinal]
    exact hanswered
  · rw [hfinal]
    exact h.log.trans hanswered (h.store _ _)

end Host.SubscribesWithin

/-- A call that unsubscribes does little more than to take out the records. -/
theorem Registry.unsubscribed_keepsTo {R : World κ → World κ → Prop} (hR : DisregardsLog R)
    {url : Url} (hforget : ∀ m w, R w (w.after (MetadataStore.unsubscribeUrl m url)))
    (id : Ref .registry) (sink : Ref .sink) (w : World κ) :
    R (w.after (dropSubscription id url sink)) (w.after (unsubscribe id url sink)) := by
  have hforgotten := hforget ((w.after (dropSubscription id url sink)).registry id).metadata
    (w.after (dropSubscription id url sink))
  rcases after_unsubscribe id url sink w with hfinal | hfinal
  · rw [hfinal]
    exact hforgotten
  · rw [hfinal]
    exact hR.trans hforgotten (hR.note _ _)

end ServiceDirectory
