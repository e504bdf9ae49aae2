import ServiceDirectory.Proofs.Neighbours.Joining

/-!
# Erasing the calls of neighbours

What is delivered to a seat does not depend on who else is subscribed.  A run and what is left of it
when the calls about other seats are erased lead to worlds that look the same: an erased call does
nothing that matters, and any other call does the same in both worlds.
-/

namespace ServiceDirectory.Seat

variable {σ τ : Type} {S : Seat} {common : σ → τ} {m : Ref .memory}
  {pairs : Watcher → Watcher → Prop} {w v : World (Chronicle σ)} {host : Host (Chronicle σ)}

/-! ## Other calls in two worlds -/

theorem Alike.metadata (h : S.Alike common m pairs w v) (md : Ref .metadata)
    (r : MetadataStore.Request) :
    S.Alike common m pairs (w.after (r.perform md)) (v.after (r.perform md)) := by
  obtain ⟨side, records, u⟩ := r
  match side, records with
  | .exported, true =>
    show S.Alike common m pairs (w.after (MetadataStore.exportUrl md u))
      (v.after (MetadataStore.exportUrl md u))
    rw [MetadataStore.after_exportUrl, MetadataStore.after_exportUrl]
    refine (h.setStore md ?_).aloof_both (.note _ _) (.note _ _)
    rw [h.exported]
  | .exported, false =>
    show S.Alike common m pairs (w.after (MetadataStore.unexportUrl md u))
      (v.after (MetadataStore.unexportUrl md u))
    rw [MetadataStore.after_unexportUrl, MetadataStore.after_unexportUrl]
    refine (h.setStore md ?_).aloof_both (.note _ _) (.note _ _)
    rw [h.exported]
  | .subscribed, true => exact h.aloof_both (.subscribeUrl md u w) (.subscribeUrl md u v)
  | .subscribed, false => exact h.aloof_both (.unsubscribeUrl md u w) (.unsubscribeUrl md u v)

theorem Alike.enrol (h : S.Alike common m pairs w v) (e : Registry.Enrolment) :
    S.Alike common m pairs (w.after (e.perform S.registry)) (v.after (e.perform S.registry)) := by
  cases hprovider : e.url.isProvider with
  | true =>
    obtain ⟨notice, hw⟩ := Registry.Enrolment.after_perform_provider hprovider S.registry w
    obtain ⟨notice', hv⟩ := Registry.Enrolment.after_perform_provider hprovider S.registry v
    have hmetadata : (w.registry S.registry).metadata = (v.registry S.registry).metadata := by
      rw [h.registry]
    rw [hw, hv, hmetadata]
    exact (h.metadata _ e.request).aloof_both (.note _ _) (.note _ _)
  | false =>
    rw [Registry.Enrolment.after_perform_other hprovider,
      Registry.Enrolment.after_perform_other hprovider]
    exact h.aloof_both (.note _ _) (.note _ _)

theorem Alike.settle (h : S.Alike common m pairs w v) (m' : Ref .memory)
    (r : MemorySource.Request) : S.Alike common m pairs (r.settle m' w) (r.settle m' v) := by
  rw [MemorySource.Request.settle, MemorySource.Request.settle, ← h.memory]
  cases (r.edit (w.memory m').table).2 with
  | none => exact h
  | some table => exact (h.setMemory m' _).aloof_both (.note _ _) (.note _ _)

theorem Alike.request (hhost : host.Discreet S common) (h : S.Alike common m pairs w v)
    (m' : Ref .memory) (r : MemorySource.Request) :
    S.Alike common m pairs (w.after (r.perform host m')) (v.after (r.perform host m')) := by
  have hsettled := h.settle m' r
  rw [r.after_perform, r.after_perform, ← hsettled.memory, ← h.memory]
  cases (r.edit (w.memory m').table).2 with
  | none => exact h
  | some _ => exact hsettled.notify hhost _ _

theorem Alike.alter (h : S.Alike common m pairs w v) {f : σ → σ}
    (hf : ∀ a b, common a = common b → common (f a) = common (f b)) :
    S.Alike common m pairs { w with client := { w.client with own := f w.client.own } }
      { v with client := { v.client with own := f v.client.own } } :=
  h.byClients rfl rfl h.snapshots (hf _ _ h.common)

/-! ## One call -/

/-- A call that is left when others are erased does the same in both worlds. -/
theorem Alike.perform (hhost : host.Discreet S common) (h : S.Alike common m pairs w v)
    {op : Operation common} (hkept : S.keeps op = true) :
    ∃ pairs' : Watcher → Watcher → Prop, S.Alike common m pairs'
      (w.after (op.perform host S.registry)) (v.after (op.perform host S.registry)) := by
  cases op with
  | subscribe url sink =>
    obtain ⟨hurl, rfl⟩ := of_decide_eq_true hkept
    exact h.subscribe hhost hurl
  | unsubscribe url sink =>
    obtain ⟨hurl, rfl⟩ := of_decide_eq_true hkept
    exact ⟨pairs, h.unsubscribe hurl⟩
  | enrol e => exact ⟨pairs, h.enrol e⟩
  | metadata md r => exact ⟨pairs, h.metadata md r⟩
  | request m' r => exact ⟨pairs, Alike.request hhost h m' r⟩
  | observe m' service l =>
    have hadded := h.add (.client l) (w.memory m').notifier service
    nth_rewrite 2 [h.memory] at hadded
    exact ⟨pairs, hadded⟩
  | unobserve m' service l =>
    have hremoved := h.remove (.client l) (w.memory m').notifier service
    nth_rewrite 2 [h.memory] at hremoved
    exact ⟨pairs, hremoved⟩
  | alter f hf => exact ⟨pairs, h.alter hf⟩

/-- A call that is erased does nothing that matters. -/
theorem aloof_of_erased (hhost : host.Discreet S common) {op : Operation common}
    (herased : S.keeps op = false) (w : World (Chronicle σ)) :
    S.Aloof common w (w.after (op.perform host S.registry)) := by
  cases op with
  | subscribe url sink =>
    exact subscribe_aloof hhost (fun htakes => of_decide_eq_false herased htakes.2) w
  | unsubscribe url sink =>
    exact unsubscribe_aloof (fun htakes => of_decide_eq_false herased htakes.2) w
  | _ => cases herased

/-! ## Runs -/

/-- The induction is on the run.  The worlds go on looking the same, with other pairs of watchers
each time somebody subscribes at the seat. -/
theorem Alike.performAll (hhost : host.Discreet S common) (h : S.Alike common m pairs w v)
    (run : List (Operation common)) :
    ∃ pairs' : Watcher → Watcher → Prop, S.Alike common m pairs'
      (w.after (Operation.performAll host S.registry run))
      (v.after (Operation.performAll host S.registry (run.filter S.keeps))) := by
  induction run generalizing w v pairs with
  | nil => exact ⟨pairs, h⟩
  | cons op rest ih =>
    cases hkept : S.keeps op with
    | true =>
      obtain ⟨pairs', hdone⟩ := Alike.perform hhost h hkept
      rw [List.filter_cons_of_pos hkept]
      exact ih hdone
    | false =>
      rw [List.filter_cons_of_neg (by simp [hkept])]
      exact ih (h.aloof (aloof_of_erased hhost hkept w))

variable (S) in
/-- Records are filed under the URLs and sinks of their watchers, and the serial numbers of
watchers have been given out. -/
structure Sound (w : World (Chronicle σ)) : Prop where
  filed : S.Filed w
  listed : Registry.SerialsGivenOut S.registry w
  recorded : ∀ s ∈ S.records w, s.watcher.serial < w.next

/-- A world looks like itself, with each watcher of the seat paired with itself. -/
theorem Sound.alike (h : S.Sound w) (hdiscovery : (w.registry S.registry).discovery = .memory m) :
    S.Alike common m (fun x y => x = y ∧ S.Owns x ∧ x.serial < w.next) w w where
  snapshots := rfl
  common := rfl
  registry := rfl
  discovery := hdiscovery
  exported _ := rfl
  memory := rfl
  differ := by
    rintro x _ ⟨rfl, howns, -⟩
    exact ⟨howns, rfl⟩
  given := by
    rintro x _ ⟨rfl, -, hgiven⟩
    exact ⟨hgiven, hgiven⟩
  unique := ⟨fun _ _ _ hx hy => hx.1.trans hy.1.symm, fun _ _ _ hx hy => hx.1.symm.trans hy.1⟩
  filed := ⟨h.filed, h.filed⟩
  watchers := by
    rw [List.forall₂_same]
    intro x hx
    obtain ⟨s, hs, rfl⟩ := List.mem_map.1 hx
    obtain ⟨hget, hsink⟩ := List.mem_filter.1 hs
    obtain ⟨hregistry, hwatcher, hurl⟩ := h.filed S.url s hget
    exact ⟨rfl, ⟨hregistry, hurl, hwatcher.trans (of_decide_eq_true hsink)⟩, h.recorded s hs⟩
  observers n service := by
    rw [List.forall₂_same]
    intro o ho
    obtain ⟨hmem, hminds⟩ := List.mem_filter.1 ho
    cases o with
    | client l => exact .client l
    | watcher x =>
      have howns : S.Owns x := of_decide_eq_true hminds
      exact .watcher ⟨rfl, howns, h.listed n service x howns.1 hmem⟩

/-- A registry that nobody has subscribed at. -/
theorem Sound.of_unused (hrecords : (w.registry S.registry).subscriptions = .empty)
    (hnobody : ∀ n service, ∀ x : Watcher, x.registry = S.registry →
      .watcher x ∉ w.observersAt n service) : S.Sound w where
  filed := by
    rw [Filed, hrecords]
    exact SubscriptionTable.filed_empty S.registry
  listed n service x hregistry hmem := absurd hmem (hnobody n service x hregistry)
  recorded s hs := by
    rw [Seat.records, hrecords] at hs
    cases hs

/-- Subscriptions do not interfere.  Take a registry over a source in memory, collaborators that do
not call back, and any run: calls that subscribe and unsubscribe, URLs that come and go, changes to
the instances, listeners that come and go.  When the calls that subscribe or unsubscribe another
sink, or at a URL with another canonical string, are erased from the run, the same lists are
delivered to the seat in the same order, first lists and later ones.  Sinks may panic. -/
theorem snapshots_of_erased (hhost : host.Discreet S common) {start : World (Chronicle σ)}
    (hstart : S.Sound start) (hdiscovery : (start.registry S.registry).discovery = .memory m)
    (run : List (Operation common)) :
    S.snapshots (start.after (Operation.performAll host S.registry run)) =
      S.snapshots (start.after (Operation.performAll host S.registry (run.filter S.keeps))) := by
  obtain ⟨pairs, halike⟩ := (hstart.alike hdiscovery).performAll hhost run
  exact halike.snapshots

/-! ## A noisy neighbour -/

section Noisy

/-- A registry over a source in memory, which nobody has used yet. -/
def unshared : World (Chronicle Unit) :=
  ((World.initial ⟨[], ()⟩).after do
    discard Notifier.create
    discard (MemorySource.create "memory" ⟨0⟩)).after
      (Registry.create (.ofParts "service-discovery-registry" "h" none "") "g" ⟨3⟩ (.memory ⟨1⟩)
        ⟨4⟩)

/-- The seat of a sink that keeps quiet. -/
def calmSeat : Seat := ⟨⟨2⟩, "consumer://c/Svc", ⟨8⟩⟩

theorem unshared_sound : calmSeat.Sound unshared := by
  refine .of_unused rfl fun n service x _ hmem => ?_
  rw [World.observersAt_of_new (w := unshared) (n := ⟨0⟩) rfl] at hmem
  cases hmem

/-- One sink panics whenever there are instances. -/
def outcry (delivery : Delivery) : Option Payload :=
  if delivery.sink = ⟨9⟩ ∧ delivery.urls ≠ [] then some (.text "panic") else none

def noisy : Host (Chronicle Unit) :=
  { Host.quiet with
    deliver := fun delivery => do
      modify fun w => w.delivering delivery
      return outcry delivery }

theorem noisy_discreet : noisy.Discreet calmSeat fun _ => () where
  deliver _ _ _ := ⟨rfl, rfl⟩
  deliver_alike _ _ _ _ _ _ _ := ⟨rfl, rfl⟩
  deliver_other _ _ _ := ⟨⟨rfl, rfl⟩, rfl⟩
  onEvent _ _ _ := ⟨rfl, rfl⟩
  onEvent_alike _ _ _ _ _ := rfl
  lookup _ _ _ _ := ⟨⟨rfl, rfl⟩, rfl⟩
  lookup_alike _ _ _ _ _ _ := rfl
  enter _ _ := ⟨⟨rfl, rfl⟩, rfl⟩
  enter_alike _ _ _ _ := rfl
  leave _ _ := ⟨⟨rfl, rfl⟩, rfl⟩
  instances _ _ _ := ⟨⟨rfl, rfl⟩, rfl⟩
  watch _ _ _ _ := ⟨⟨rfl, rfl⟩, rfl⟩

/-- The noisy sink is subscribed at the same URL as the other one, where it is told of nothing at
first, and at another one, where the call that subscribes panics and leaves its watcher behind. -/
def noisyRun : List (Operation fun _ : Unit => ()) :=
  let url := Url.ofParts "consumer" "c" none "Svc"
  [.subscribe url ⟨9⟩, .subscribe url ⟨8⟩, .request ⟨1⟩ (.add (.ofAddress "Svc" "h" 1)),
    .subscribe (.ofParts "consumer" "d" none "Svc") ⟨9⟩,
    .request ⟨1⟩ (.add (.ofAddress "Svc" "h" 2)), .unsubscribe url ⟨9⟩,
    .request ⟨1⟩ (.remove (.ofAddress "Svc" "h" 1))]

/-- Of ten deliveries six are to the noisy sink.  The other sink is told of the same four lists
without it. -/
theorem snapshots_of_erased_noisy :
    let w := unshared.after (Operation.performAll noisy calmSeat.registry noisyRun)
    let v := unshared.after
      (Operation.performAll noisy calmSeat.registry (noisyRun.filter calmSeat.keeps))
    noisy.Discreet calmSeat (fun _ => ()) ∧ calmSeat.Sound unshared ∧
      (unshared.registry calmSeat.registry).discovery = .memory ⟨1⟩ ∧
      w.client.delivered.length = 10 ∧ v.client.delivered.length = 4 ∧
      (calmSeat.snapshots v).map List.length = [1, 2, 1, 0] ∧
      calmSeat.snapshots w = calmSeat.snapshots v := by
  intro w v
  have hsame : calmSeat.snapshots w = calmSeat.snapshots v :=
    snapshots_of_erased noisy_discreet unshared_sound (m := ⟨1⟩) rfl noisyRun
  refine ⟨noisy_discreet, unshared_sound, rfl, ?_, ?_, ?_, hsame⟩
  all_goals decide +kernel

end Noisy

end ServiceDirectory.Seat
