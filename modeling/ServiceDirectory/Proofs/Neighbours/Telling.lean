import ServiceDirectory.Proofs.Dispatcher.Reacting
import ServiceDirectory.Proofs.Neighbours.Alike

/-!
# Telling two worlds of a change

A notifier tells the observers of a service one after the other.  The watchers of other seats are
passed over: whatever comes of them, a panic included, does not matter.  The rest are told in step,
each with its twin in the other world.
-/

namespace ServiceDirectory

/-- The URLs of the instances in memory, service by service. -/
def MemorySource.urls (source : MemorySource) (subscribed : Url) (services : List String) :
    List Url :=
  services.flatMap fun service => (source.table.get service).map (instanceUrl subscribed)

section Asking

variable {κ : Type}

/-- A panic of the first observer leaves a notice, and the rest are told. -/
theorem Dispatcher.told_first {host : Host κ} {o : Observer} {rest : List Observer} {event : Event}
    {w w' : World κ} (h : Told host event w ((o :: rest).map Listener.observer) w') :
    ∃ u, (u = w.after (o.react host event) ∨
        ∃ notice, u = (w.after (o.react host event)).note notice) ∧
      Told host event u (rest.map Listener.observer) w' := by
  cases h with
  | returned _ hrest => exact ⟨_, Or.inl rfl, hrest⟩
  | panicked _ hrest => exact ⟨_, Or.inr ⟨_, rfl⟩, hrest⟩

/-- A source in memory always answers, and asking it changes nothing. -/
theorem instanceUrls_memory (host : Host κ) (m : Ref .memory) (subscribed : Url)
    (services : List String) (w : World κ) :
    w.result (instanceUrls host (.memory m) subscribed services).run =
        .ok ((w.memory m).urls subscribed services) ∧
      w.after (instanceUrls host (.memory m) subscribed services).run = w := by
  induction services with
  | nil => exact ⟨rfl, rfl⟩
  | cons service rest ih =>
    have hfirst : w.result ((Discovery.memory m).instances host service).run =
        .ok ((w.memory m).table.get service) := rfl
    have hsame : w.after ((Discovery.memory m).instances host service).run = w := rfl
    rw [instanceUrls]
    constructor
    · rw [World.result_bind_of_ok hfirst, hsame, World.result_bind_of_ok ih.1]
      rfl
    · rw [World.after_bind_of_ok hfirst, hsame, World.after_bind_pure_except]
      exact ih.2

theorem Watcher.after_refresh_memory {host : Host κ} {x : Watcher} {event : Event} {w : World κ}
    {m : Ref .memory} (hdiscovery : (w.registry x.registry).discovery = .memory m)
    (hentered : w.result (host.enter (.discovery (.memory m))) = true) :
    let v := w.after (host.enter (.discovery (.memory m)))
    let urls := (v.memory m).urls x.subscribed x.services
    w.after (x.refresh host event) =
      ((v.note (.subscriptionRefreshed x.subscribed.fullString event.source urls.length)).after
        (host.deliver ⟨x.subscribed, x.sink, urls, x⟩)).after
          (host.leave (.discovery (.memory m))) := by
  obtain ⟨hasked, hsame⟩ := instanceUrls_memory host m x.subscribed x.services
    (w.after (host.enter (.discovery (.memory m))))
  rw [Watcher.refresh, World.after_bind, World.after_get, World.result_get, hdiscovery]
  dsimp only
  rw [World.after_bind, hentered, if_pos rfl, World.after_bind, hasked, hsame]
  rfl

end Asking

namespace Seat

variable {σ τ : Type} {S : Seat} {common : σ → τ} {m : Ref .memory}
  {pairs : Watcher → Watcher → Prop} {w v : World (Chronicle σ)} {host : Host (Chronicle σ)}
  (hhost : host.Discreet S common)

include hhost

/-! ## One collaborator -/

theorem Alike.deliver (h : S.Alike common m pairs w v) {delivery : Delivery}
    {watcher : Option Watcher} (hconcerns : S.concerns delivery = true)
    (hconcerns' : S.concerns { delivery with watcher } = true) :
    w.result (host.deliver delivery) = v.result (host.deliver { delivery with watcher }) ∧
      S.Alike common m pairs (w.after (host.deliver delivery))
        (v.after (host.deliver { delivery with watcher })) := by
  obtain ⟨hresult, hcommon⟩ :=
    hhost.deliver_alike delivery watcher w v hconcerns hconcerns' h.common
  have hw := hhost.deliver delivery w hconcerns
  have hv := hhost.deliver { delivery with watcher } v hconcerns'
  refine ⟨hresult, h.byClients hw.elsewhere hv.elsewhere ?_ hcommon⟩
  have hbefore := h.snapshots
  rw [snapshots, snapshots] at hbefore ⊢
  rw [hw.delivered, hv.delivered]
  show ((delivery :: w.client.delivered).filter S.concerns).map _ =
    (({ delivery with watcher } :: v.client.delivered).filter S.concerns).map _
  rw [List.filter_cons_of_pos hconcerns, List.filter_cons_of_pos hconcerns', List.map_cons,
    List.map_cons, hbefore]

theorem Alike.onEvent (h : S.Alike common m pairs w v) (l : Ref .listener) (event : Event) :
    S.Alike common m pairs (w.after (host.onEvent l event)) (v.after (host.onEvent l event)) := by
  have hw := hhost.onEvent l event w
  have hv := hhost.onEvent l event v
  refine h.byClients hw.elsewhere hv.elsewhere ?_ (hhost.onEvent_alike l event w v h.common)
  rw [snapshots, hw.delivered, snapshots, hv.delivered]
  exact h.snapshots

/-- Two watchers of a pair deliver the same list, or both find the source gone. -/
theorem Alike.refresh (h : S.Alike common m pairs w v) {x y : Watcher} (hpair : pairs x y)
    (event : Event) :
    S.Alike common m pairs (w.after (x.refresh host event)) (v.after (y.refresh host event)) := by
  obtain ⟨⟨hregistry, hurl, hsink⟩, hy⟩ := h.differ hpair
  obtain ⟨serial, rfl⟩ : ∃ serial, y = { x with serial } := ⟨y.serial, hy⟩
  have hx : (w.registry x.registry).discovery = .memory m := by
    rw [hregistry]
    exact h.discovery
  have hx' : (v.registry ({ x with serial } : Watcher).registry).discovery = .memory m := by
    show (v.registry x.registry).discovery = _
    rw [hregistry]
    exact h.symm.discovery
  have hanswer := hhost.enter_alike (.discovery (.memory m)) w v h.common
  have hentered := h.aloof_both (.unnoticed (hhost.enter (.discovery (.memory m)) w))
    (.unnoticed (hhost.enter (.discovery (.memory m)) v))
  cases hfound : w.result (host.enter (.discovery (.memory m))) with
  | false =>
    rw [hfound] at hanswer
    rw [x.after_refresh_of_gone (by rw [hx, hfound]),
      Watcher.after_refresh_of_gone (by rw [hx', hanswer]), hx, hx']
    exact hentered
  | true =>
    rw [hfound] at hanswer
    rw [Watcher.after_refresh_memory hx hfound, Watcher.after_refresh_memory hx' hanswer.symm]
    generalize w.after (host.enter (.discovery (.memory m))) = w₁ at *
    generalize v.after (host.enter (.discovery (.memory m))) = v₁ at *
    have hmemory : w₁.memory m = v₁.memory m := congrFun hentered.memory m
    dsimp only
    rw [← hmemory]
    generalize (w₁.memory m).urls x.subscribed x.services = urls
    have hconcerns : ∀ k, S.concerns ⟨x.subscribed, x.sink, urls, some { x with serial := k }⟩ =
        true := fun _ => decide_eq_true ⟨hurl, hsink, decide_eq_true hregistry⟩
    let notice : Notice :=
      .subscriptionRefreshed x.subscribed.fullString event.source urls.length
    have hnoted := hentered.aloof_both (.note w₁ notice) (.note v₁ notice)
    exact (Alike.deliver hhost hnoted (hconcerns x.serial) (hconcerns serial)).2.aloof_both
      (.unnoticed (hhost.leave _ _)) (.unnoticed (hhost.leave _ _))

/-! ## The observers of a service -/

theorem Alike.react (h : S.Alike common m pairs w v) {o o' : Observer} (htwin : Twin pairs o o')
    (event : Event) :
    S.Alike common m pairs (w.after (o.react host event)) (v.after (o'.react host event)) := by
  cases htwin with
  | client l => exact h.onEvent hhost l event
  | watcher hpair => exact h.refresh hhost hpair event

theorem react_aloof {o : Observer} (ho : S.minds o = false) (event : Event)
    (w : World (Chronicle σ)) : S.Aloof common w (w.after (o.react host event)) := by
  cases o with
  | client l => exact nomatch ho
  | watcher x => exact refresh_aloof hhost (of_decide_eq_false ho) event w

/-- Observers that do not matter are told. -/
theorem told_aloof {observers : List Observer} (hnone : ∀ o ∈ observers, S.minds o ≠ true)
    {event : Event} {w' : World (Chronicle σ)}
    (htold : Dispatcher.Told host event w (observers.map Listener.observer) w') :
    S.Aloof common w w' := by
  refine htold.keepsTo aloof_disregardsLog fun l hl u => ?_
  obtain ⟨o, ho, rfl⟩ := List.mem_map.1 hl
  exact react_aloof hhost (Bool.eq_false_iff.2 (hnone o ho)) event u

omit hhost in
theorem Aloof.of_noted {w w' : World (Chronicle σ)} (h : w' = w ∨ ∃ notice, w' = w.note notice) :
    S.Aloof common w w' := by
  rcases h with rfl | ⟨notice, rfl⟩
  · exact .refl _
  · exact .note w notice

/-- The observers that matter are told in step. -/
theorem Alike.told (h : S.Alike common m pairs w v) {l l' : List Observer} {event : Event}
    {w' v' : World (Chronicle σ)}
    (htwins : List.Forall₂ (Twin pairs) (l.filter S.minds) (l'.filter S.minds))
    (hw : Dispatcher.Told host event w (l.map Listener.observer) w')
    (hv : Dispatcher.Told host event v (l'.map Listener.observer) v') :
    S.Alike common m pairs w' v' := by
  induction l generalizing w v l' with
  | nil =>
    cases hw
    rw [List.filter_nil, List.forall₂_nil_left_iff, List.filter_eq_nil_iff] at htwins
    exact h.aloof_right (told_aloof hhost htwins hv)
  | cons o rest ih =>
    obtain ⟨u, hu, hrest⟩ := Dispatcher.told_first hw
    by_cases ho : S.minds o = true
    · -- The twin of this observer comes next in the other world, after some that do not matter.
      rw [List.filter_cons_of_pos ho] at htwins
      obtain ⟨o', rest', htwin, hothers, hfilter⟩ := List.forall₂_cons_left_iff.1 htwins
      obtain ⟨before, after, rfl, hbefore, -, hafter⟩ := List.filter_eq_cons_iff.1 hfilter
      rw [List.map_append] at hv
      obtain ⟨v₁, hv₁, hv⟩ := Dispatcher.told_append.1 hv
      obtain ⟨u', hu', hrest'⟩ := Dispatcher.told_first hv
      have hreached := h.aloof_right (told_aloof hhost hbefore hv₁)
      have htold := (hreached.react hhost htwin event).aloof_both (.of_noted hu) (.of_noted hu')
      refine ih htold ?_ hrest hrest'
      rw [hafter]
      exact hothers
    · rw [List.filter_cons_of_neg ho] at htwins
      have hpassed := h.aloof (react_aloof hhost (Bool.eq_false_iff.2 ho) event w)
      exact ih (hpassed.aloof (.of_noted hu)) htwins hrest hv

theorem Alike.notify (h : S.Alike common m pairs w v) (n : Ref .notifier) (event : Event) :
    S.Alike common m pairs (w.after (Notifier.notify host n event))
      (v.after (Notifier.notify host n event)) := by
  cases hcontent : event.content with
  | membership service instances =>
    obtain ⟨w₁, hw₁, hw⟩ : ∃ u, (u = w ∨ ∃ notice, u = w.note notice) ∧
        Dispatcher.Told host event u ((w.observersAt n service).map Listener.observer)
          (w.after (Notifier.notify host n event)) := Dispatcher.told_notify hcontent n w
    obtain ⟨v₁, hv₁, hv⟩ : ∃ u, (u = v ∨ ∃ notice, u = v.note notice) ∧
        Dispatcher.Told host event u ((v.observersAt n service).map Listener.observer)
          (v.after (Notifier.notify host n event)) := Dispatcher.told_notify hcontent n v
    have hbegun := h.aloof_both (.of_noted hw₁) (.of_noted hv₁)
    exact Alike.told hhost hbegun (h.observers n service) hw hv
  | _ =>
    rw [Notifier.notify, hcontent]
    exact h

end Seat

end ServiceDirectory
