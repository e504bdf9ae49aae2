import ServiceDirectory.Proofs.Discovery.Watches
import ServiceDirectory.Proofs.Neighbours.Clients
import ServiceDirectory.Proofs.Registry.Relating

/-!
# What neighbours do

A call about another seat writes to the table of the registry, to the lists of observers and to
what the metadata store keeps about subscriptions.  Seen from the seat nothing has happened: its
records and its observers are what they were, and nothing has been delivered to it.
-/

namespace ServiceDirectory.Seat

variable {σ τ : Type} {S : Seat} {common : σ → τ}

variable (S) in
/-- Whether an observer matters for the seat: the listeners of clients do, and of the watchers
those of the seat. -/
def minds : Observer → Bool
  | .client _ => true
  | .watcher x => S.Owns x

variable (S) in
/-- The records of the registry are filed under the URLs and sinks of their watchers. -/
def Filed (w : World (Chronicle σ)) : Prop :=
  (w.registry S.registry).subscriptions.Filed S.registry

variable (S common) in
/-- Apart from records and from the lists of observers, nothing that matters for the seat has
changed. -/
structure Calm (w w' : World (Chronicle σ)) : Prop where
  snapshots : S.snapshots w' = S.snapshots w
  common : common w'.client.own = common w.client.own
  registry : w'.registry S.registry =
    { w.registry S.registry with subscriptions := (w'.registry S.registry).subscriptions }
  exported : ∀ md, (w'.store md).exported = (w.store md).exported
  memory : w'.memory = w.memory
  wiring : Discovery.notifier? w' = Discovery.notifier? w
  next_le : w.next ≤ w'.next

variable (S common) in
/-- Nothing that matters for the seat has changed. -/
structure Aloof (w w' : World (Chronicle σ)) : Prop extends Calm S common w w' where
  records : S.records w' = S.records w
  filed : S.Filed w → S.Filed w'
  observers : S.Filed w → ∀ n service,
    (w'.observersAt n service).filter S.minds = (w.observersAt n service).filter S.minds

section Steps

variable {w v w' : World (Chronicle σ)}

namespace Calm

/-- A step that leaves the table, the stores, the instances and the clients alone. -/
theorem of_fields (hregistries : w'.registries = w.registries) (hstores : w'.stores = w.stores)
    (hmemories : w'.memories = w.memories) (hclient : w'.client = w.client)
    (hwiring : Discovery.notifier? w' = Discovery.notifier? w) (hnext : w.next ≤ w'.next) :
    S.Calm common w w' := by
  refine ⟨?_, ?_, ?_, fun md => ?_, ?_, hwiring, hnext⟩
  · rw [Seat.snapshots, Seat.snapshots, hclient]
  · rw [hclient]
  · rw [World.registry, World.registry, hregistries]
  · rw [World.store, World.store, hstores]
  · funext m
    rw [World.memory, World.memory, hmemories]

theorem add (n : Ref .notifier) (service : String) (o : Observer) (w : World (Chronicle σ)) :
    S.Calm common w (w.after (Notifier.add n service o)) :=
  .of_fields rfl rfl rfl rfl rfl (Nat.le_refl _)

theorem remove (n : Ref .notifier) (service : String) (o : Observer) (w : World (Chronicle σ)) :
    S.Calm common w (w.after (Notifier.remove n service o)) :=
  .of_fields rfl rfl rfl rfl rfl (Nat.le_refl _)

theorem drop (url : Url) (sink : Ref .sink) (w : World (Chronicle σ)) :
    S.Calm common w (w.after (Registry.dropSubscription S.registry url sink)) := by
  have hregistry := Registry.registry_after_dropSubscription S.registry url sink w
  have helsewhere := (Registry.dropSubscription_removal S.registry url sink w).elsewhere
  have hwiring := wiring_dropped S.registry url sink w
  generalize w.after (Registry.dropSubscription S.registry url sink) = w' at *
  refine ⟨?_, ?_, ?_, fun md => ?_, ?_, hwiring, ?_⟩
  · rw [helsewhere]
    rfl
  · rw [helsewhere]
    rfl
  · rw [hregistry]
  · rw [helsewhere]
    rfl
  · rw [helsewhere]
    rfl
  · rw [helsewhere]
    exact Nat.le_refl _

theorem record (subscriptions : SubscriptionTable) (w : World (Chronicle σ)) :
    S.Calm common w (w.after (Registry.setSubscriptions S.registry subscriptions)) := by
  refine ⟨rfl, rfl, ?_, fun _ => rfl, rfl, rfl, Nat.le_refl _⟩
  rw [Registry.registry_after_setSubscriptions]

end Calm

namespace Aloof

/-- A step that leaves the registries alone. -/
theorem of_calm (h : S.Calm common w w') (hregistries : w'.registries = w.registries)
    (hobservers : ∀ n service,
      (w'.observersAt n service).filter S.minds = (w.observersAt n service).filter S.minds) :
    S.Aloof common w w' := by
  have hregistry : w'.registry S.registry = w.registry S.registry := by
    rw [World.registry, World.registry, hregistries]
  refine ⟨h, ?_, fun hw => ?_, fun _ => hobservers⟩
  · rw [Seat.records, Seat.records, hregistry]
  · rw [Filed, hregistry]
    exact hw

theorem refl (w : World (Chronicle σ)) : S.Aloof common w w :=
  .of_calm (.of_fields rfl rfl rfl rfl rfl (Nat.le_refl _)) rfl fun _ _ => rfl

theorem trans (h : S.Aloof common w v) (h' : S.Aloof common v w') : S.Aloof common w w' where
  snapshots := h'.snapshots.trans h.snapshots
  common := h'.common.trans h.common
  registry := by rw [h'.registry, h.registry]
  exported md := (h'.exported md).trans (h.exported md)
  memory := h'.memory.trans h.memory
  wiring := h'.wiring.trans h.wiring
  next_le := Nat.le_trans h.next_le h'.next_le
  records := h'.records.trans h.records
  filed hw := h'.filed (h.filed hw)
  observers hw n service := (h'.observers (h.filed hw) n service).trans (h.observers hw n service)

theorem note (w : World (Chronicle σ)) (n : Notice) : S.Aloof common w (w.note n) :=
  .of_calm (.of_fields rfl rfl rfl rfl rfl (Nat.le_refl _)) rfl fun _ _ => rfl

theorem fresh (w : World (Chronicle σ)) : S.Aloof common w { w with next := w.next + 1 } :=
  .of_calm (.of_fields rfl rfl rfl rfl rfl (Nat.le_succ _)) rfl fun _ _ => rfl

theorem add {o : Observer} (ho : S.minds o = false) (n : Ref .notifier) (service : String)
    (w : World (Chronicle σ)) : S.Aloof common w (w.after (Notifier.add n service o)) := by
  refine .of_calm (.add n service o w) rfl fun n' service' => ?_
  rw [World.observersAt_add]
  split_ifs
  · rw [List.filter_append, List.filter_cons_of_neg (by simp [ho]), List.filter_nil,
      List.append_nil]
  · rfl

theorem remove {o : Observer} (ho : S.minds o = false) (n : Ref .notifier) (service : String)
    (w : World (Chronicle σ)) : S.Aloof common w (w.after (Notifier.remove n service o)) := by
  refine .of_calm (.remove n service o w) rfl fun n' service' => ?_
  rw [World.observersAt_remove]
  split_ifs
  · rw [List.filter_filter]
    refine List.filter_congr fun o' _ => ?_
    by_cases ho' : o' = o
    · simp [ho', ho]
    · simp [ho']
  · rfl

theorem subscribeUrl (md : Ref .metadata) (url : Url) (w : World (Chronicle σ)) :
    S.Aloof common w (w.after (MetadataStore.subscribeUrl md url)) := by
  rw [MetadataStore.after_subscribeUrl]
  refine .of_calm ⟨rfl, rfl, rfl, fun md' => ?_, rfl, rfl, Nat.le_refl _⟩ rfl fun _ _ => rfl
  show ((w.setStore md _).store md').exported = _
  rw [World.store_setStore]
  split_ifs with hmd
  · rw [hmd]
  · rfl

theorem unsubscribeUrl (md : Ref .metadata) (url : Url) (w : World (Chronicle σ)) :
    S.Aloof common w (w.after (MetadataStore.unsubscribeUrl md url)) := by
  rw [MetadataStore.after_unsubscribeUrl]
  refine .of_calm ⟨rfl, rfl, rfl, fun md' => ?_, rfl, rfl, Nat.le_refl _⟩ rfl fun _ _ => rfl
  show ((w.setStore md _).store md').exported = _
  rw [World.store_setStore]
  split_ifs with hmd
  · rw [hmd]
  · rfl

theorem unnoticed (h : Unnoticed common w w') : S.Aloof common w w' := by
  have hsnapshots : S.snapshots w' = S.snapshots w := by
    rw [Seat.snapshots, Seat.snapshots, h.delivered]
  have hcommon := h.common
  rw [h.elsewhere] at hsnapshots hcommon ⊢
  exact .of_calm ⟨hsnapshots, hcommon, rfl, fun _ => rfl, rfl, rfl, Nat.le_refl _⟩ rfl
    fun _ _ => rfl

/-- A delivery to another seat is started. -/
theorem delivering {delivery : Delivery} (hother : S.concerns delivery = false)
    (w : World (Chronicle σ)) : S.Aloof common w (w.delivering delivery) := by
  refine .of_calm ⟨?_, rfl, rfl, fun _ => rfl, rfl, rfl, Nat.le_refl _⟩ rfl fun _ _ => rfl
  show ((delivery :: w.client.delivered).filter S.concerns).map _ = _
  rw [List.filter_cons_of_neg (by simp [hother])]
  rfl

end Aloof

end Steps

/-! ## Calls about other seats -/

theorem minds_watcher_of_not_owns {x : Watcher} (hx : ¬S.Owns x) :
    S.minds (.watcher x) = false :=
  decide_eq_false hx

theorem Filed.drop {w : World (Chronicle σ)} (hw : S.Filed w) (url : Url) (sink : Ref .sink) :
    S.Filed (w.after (Registry.dropSubscription S.registry url sink)) := by
  rw [Filed, Registry.registry_after_dropSubscription]
  exact SubscriptionTable.Filed.take hw url.fullString sink

theorem Filed.record {w : World (Chronicle σ)} (hw : S.Filed w) {url : Url} {sink : Ref .sink}
    {watcher : Watcher} (hregistry : watcher.registry = S.registry)
    (hsubscribed : watcher.subscribed = url) (hsink : watcher.sink = sink) :
    S.Filed (w.after (Registry.setSubscriptions S.registry
      ((w.registry S.registry).subscriptions.add url.fullString ⟨sink, watcher⟩))) := by
  rw [Filed, Registry.registry_after_setSubscriptions]
  exact SubscriptionTable.Filed.add hw hregistry hsubscribed hsink

section Others

variable {url : Url} {sink : Ref .sink}

/-- Only watchers of the sink at the URL are taken off the lists. -/
theorem Aloof.drop (hother : ¬S.Takes S.registry url sink) (w : World (Chronicle σ)) :
    S.Aloof common w (w.after (Registry.dropSubscription S.registry url sink)) := by
  refine ⟨.drop url sink w, records_dropped hother w, fun hw => hw.drop url sink,
    fun hw n service => ?_⟩
  rw [(Registry.dropSubscription_removal S.registry url sink w).observers]
  split_ifs
  · rw [List.filter_filter]
    refine List.filter_congr fun o _ => ?_
    by_cases hgone : ∃ s ∈ ((w.registry S.registry).subscriptions.take url.fullString sink).1,
        o = .watcher s.watcher ∧ service ∈ s.services
    · obtain ⟨s, hs, rfl, -⟩ := hgone
      obtain ⟨hget, hsink⟩ := SubscriptionTable.mem_fst_take.1 hs
      obtain ⟨-, hwatcherSink, hurl⟩ := hw url.fullString s hget
      rw [minds_watcher_of_not_owns fun howns => hother ⟨rfl, hurl ▸ howns.2.1, ?_⟩]
      · rfl
      · rw [← hsink, ← hwatcherSink]
        exact howns.2.2
    · rw [decide_eq_false hgone, Bool.not_false, Bool.and_true]
  · rfl

theorem Aloof.record (hother : ¬S.Takes S.registry url sink) {watcher : Watcher}
    (hregistry : watcher.registry = S.registry) (hsubscribed : watcher.subscribed = url)
    (hsink : watcher.sink = sink) (w : World (Chronicle σ)) :
    S.Aloof common w (w.after (Registry.setSubscriptions S.registry
      ((w.registry S.registry).subscriptions.add url.fullString ⟨sink, watcher⟩))) := by
  exact ⟨.record _ w, records_recorded hother watcher w,
    fun hw => hw.record hregistry hsubscribed hsink, fun _ _ _ => rfl⟩

theorem aloof_disregardsLog : DisregardsLog (S.Aloof (σ := σ) common) := ⟨.refl, .trans, .note⟩

/-- Whoever unsubscribes, what comes after the records have been taken out does not matter. -/
theorem unsubscribed_aloof (w : World (Chronicle σ)) :
    S.Aloof common (w.after (Registry.dropSubscription S.registry url sink))
      (w.after (Registry.unsubscribe S.registry url sink)) :=
  Registry.unsubscribed_keepsTo aloof_disregardsLog (fun m u => .unsubscribeUrl m url u)
    S.registry sink w

theorem unsubscribe_aloof (hother : ¬S.Takes S.registry url sink) (w : World (Chronicle σ)) :
    S.Aloof common w (w.after (Registry.unsubscribe S.registry url sink)) :=
  (Aloof.drop hother w).trans (unsubscribed_aloof w)

theorem Aloof.tolerates {o : Observer} (ho : S.minds o = false)
    (places : Ref .notifier → String → Prop) : Tolerates (S.Aloof (σ := σ) common) o places where
  refl := .refl
  trans := .trans
  stays h := Discovery.stays_of_wiring h.wiring
  add n service w _ := .add ho n service w
  remove n service w := .remove ho n service w
  setWatched b service w := .of_calm (.of_fields rfl rfl rfl rfl
    (BackedSource.notifier?_setWatched w b service) (Nat.le_refl _)) rfl fun _ _ => rfl
  note := .note

variable {host : Host (Chronicle σ)} (hhost : host.Discreet S common)

include hhost

theorem deliver_aloof {delivery : Delivery} (hother : S.concerns delivery = false)
    (w : World (Chronicle σ)) : S.Aloof common w (w.after (host.deliver delivery)) :=
  (Aloof.delivering hother w).trans (.unnoticed (hhost.deliver_other delivery w hother))

theorem subscribe_aloof (hother : ¬S.Takes S.registry url sink) (w : World (Chronicle σ)) :
    S.Aloof common w (w.after (Registry.subscribe host S.registry url sink).run) := by
  refine Host.SubscribesWithin.subscribe ⟨aloof_disregardsLog, fun h => h.next_le,
    fun _ serial services => ?_,
    fun c key group w => .unnoticed (hhost.lookup c key group w),
    fun b service hook w => .unnoticed (hhost.watch b service hook w),
    fun b service w => .unnoticed (hhost.instances b service w), fun urls watcher w _ => ?_,
    .fresh, fun _ => .drop hother, fun _ _ w hid hsubscribed hsink =>
      .record hother hid hsubscribed hsink w, fun md => .subscribeUrl md url⟩ w
  · have hwatcher : ¬S.Owns ⟨serial, S.registry, url, services, sink⟩ := hother
    exact (Aloof.tolerates (minds_watcher_of_not_owns hwatcher) _).past (fun h => h.next_le) serial
  · refine deliver_aloof hhost ?_ w
    rw [concerns, decide_eq_false_iff_not]
    exact fun hconcerns => hother ⟨rfl, hconcerns.1, hconcerns.2.1⟩

/-- A watcher that is not one of the seat delivers to another one. -/
theorem refresh_aloof {x : Watcher} (hother : ¬S.Owns x) (event : Event)
    (w : World (Chronicle σ)) : S.Aloof common w (w.after (x.refresh host event)) := by
  have hways := x.refresh_cases host event w
  dsimp only at hways
  generalize (w.registry x.registry).discovery = d at hways
  have hentered : S.Aloof common w _ := .unnoticed (hhost.enter (.discovery d) w)
  have hasked := hentered.trans (instanceUrls_keepsTo (R := S.Aloof common)
    (fun b service w => .unnoticed (hhost.instances b service w)) .refl .trans d x.subscribed
    x.services _)
  rcases hways with ⟨-, hfinal⟩ | ⟨cause, -, hfinal⟩ | ⟨urls, -, hfinal⟩
  · rw [hfinal]
    exact hentered
  · rw [hfinal]
    exact (hasked.trans (.note _ _)).trans (.unnoticed (hhost.leave _ _))
  · rw [hfinal]
    refine ((hasked.trans (.note _ _)).trans (deliver_aloof hhost ?_ _)).trans
      (.unnoticed (hhost.leave _ _))
    rw [concerns, decide_eq_false_iff_not]
    rintro ⟨hurl, hsink, hregistry⟩
    exact hother ⟨of_decide_eq_true hregistry, hurl, hsink⟩

end Others

end ServiceDirectory.Seat
