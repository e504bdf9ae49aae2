import ServiceDirectory.Proofs.Neighbours.Telling

/-!
# Joining in two worlds

A call that subscribes at the seat does the same in two worlds that look the same: it resolves the
same services, delivers the same list, and ends in the same way.  The watchers that it makes are a
new pair.
-/

namespace ServiceDirectory

section Collecting

variable {κ : Type}

/-- A source in memory takes any observer. -/
theorem Registry.watchEach_memory_cons (host : Host κ) (m : Ref .memory) (x : Watcher)
    (tried : List String) (service : String) (rest : List String) (w : World κ) :
    let added := w.after (Notifier.add (w.memory m).notifier service (.watcher x))
    let goOn := (watchEach host (.memory m) x (tried ++ [service]) rest).run
    w.result (watchEach host (.memory m) x tried (service :: rest)).run = added.result goOn ∧
      w.after (watchEach host (.memory m) x tried (service :: rest)).run = added.after goOn := by
  intro added goOn
  rcases watchEach_cases host (.memory m) x tried service rest w with
    ⟨-, hresult, hfinal⟩ | ⟨_, hfailed, -⟩ | ⟨_, hpanicked, -⟩
  · exact ⟨hresult, hfinal⟩
  · cases hfailed
  · cases hpanicked

theorem Registry.watchAndCollect_unresolved {host : Host κ} {id : Ref .registry} {url : Url}
    (sink : Ref .sink) {w : World κ} {cause : Failure}
    (hnames : w.result (serviceNames host id url.serviceInterface).run = .error cause) :
    w.result (watchAndCollect host id url sink).run = .error (.failed cause) ∧
      w.after (watchAndCollect host id url sink).run =
        w.after (serviceNames host id url.serviceInterface).run := by
  rcases watchAndCollect_ways host id url sink w with
    ⟨cause', hfailed, hrest⟩ | ⟨services, hresolved, -⟩
  · obtain rfl := Except.error.inj (hnames.symm.trans hfailed)
    exact hrest
  · exact nomatch hnames.symm.trans hresolved

/-- Over a source in memory a call that watches and collects fails only when the interface is not
resolved. -/
theorem Registry.watchAndCollect_memory {host : Host κ} {id : Ref .registry} {url : Url}
    (sink : Ref .sink) {w : World κ} {m : Ref .memory} {services : List String}
    (hnames : w.result (serviceNames host id url.serviceInterface).run = .ok services) :
    let v := w.after (serviceNames host id url.serviceInterface).run
    let start : World κ := { v with next := v.next + 1 }
    let watcher := nextWatcher v id url sink services
    let watch := (watchEach host (.memory m) watcher [] services).run
    (v.registry id).discovery = .memory m → start.result watch = .ok () →
      w.result (watchAndCollect host id url sink).run =
          .ok (watcher, ((start.after watch).memory m).urls url services) ∧
        w.after (watchAndCollect host id url sink).run = start.after watch := by
  intro v start watcher watch hdiscovery hwatch
  obtain ⟨hasked, hsame⟩ := instanceUrls_memory host m url services (start.after watch)
  rcases watchAndCollect_ways host id url sink w with
    ⟨cause, hfailed, -⟩ | ⟨services', hnames', hways⟩
  · exact nomatch hnames.symm.trans hfailed
  · obtain rfl : services = services' := Except.ok.inj (hnames.symm.trans hnames')
    dsimp only at hways
    change (v.registry id).discovery = .memory m at hdiscovery
    have hthere : Registry.discovery
        ((w.after (serviceNames host id url.serviceInterface).run).registry id) = .memory m :=
      hdiscovery
    rw [hthere] at hways
    rcases hways with
      ⟨stop, hstopped, -⟩ | ⟨cause, -, hfailed, -⟩ | ⟨urls, -, hurls, hresult, hfinal⟩
    · exact nomatch hwatch.symm.trans hstopped
    · exact nomatch hasked.symm.trans hfailed
    · obtain rfl := Except.ok.inj (hasked.symm.trans hurls)
      exact ⟨hresult, hfinal.trans hsame⟩

/-- The sink is told, and the subscription recorded if it has not panicked. -/
theorem Registry.after_deliverInstances_of_ok {host : Host κ} {id : Ref .registry} {url : Url}
    {sink : Ref .sink} {w : World κ} {watcher : Watcher} {urls : List Url}
    (hok : w.result (watchAndCollect host id url sink).run = .ok (watcher, urls)) :
    let telling := (w.after (watchAndCollect host id url sink).run).note
      (.instancesDelivered url.fullString watcher.services urls.length)
    let deliver := host.deliver ⟨url, sink, urls, watcher⟩
    let told := telling.after deliver
    w.after (deliverInstances host id url sink).run =
      match telling.result deliver with
      | some _ => told
      | none => told.after (setSubscriptions id
          ((told.registry id).subscriptions.add url.fullString ⟨sink, watcher⟩)) := by
  intro telling deliver told
  rcases deliverInstances_collected hok with
    ⟨payload, hreaction, -, hfinal⟩ | ⟨hreaction, -, hfinal⟩
  · change telling.result deliver = _ at hreaction
    rw [hreaction]
    exact hfinal
  · change telling.result deliver = _ at hreaction
    rw [hreaction]
    exact hfinal

end Collecting

namespace Seat

variable {σ τ : Type} {S : Seat} {common : σ → τ} {m : Ref .memory}
  {pairs : Watcher → Watcher → Prop} {w v : World (Chronicle σ)} {host : Host (Chronicle σ)}

theorem Alike.watchEach (host : Host (Chronicle σ)) (h : S.Alike common m pairs w v)
    {x y : Watcher} (hpair : pairs x y) (tried services : List String) :
    let watch := fun watcher => (Registry.watchEach host (.memory m) watcher tried services).run
    w.result (watch x) = .ok () ∧ v.result (watch y) = .ok () ∧
      S.Alike common m pairs (w.after (watch x)) (v.after (watch y)) := by
  intro watch
  induction services generalizing tried w v with
  | nil => exact ⟨rfl, rfl, h⟩
  | cons service rest ih =>
    have hadded := h.add (.watcher hpair) (w.memory m).notifier service
    obtain ⟨hresultw, hw⟩ := Registry.watchEach_memory_cons host m x tried service rest w
    obtain ⟨hresultv, hv⟩ := Registry.watchEach_memory_cons host m y tried service rest v
    rw [← h.memory] at hresultv hv
    have hrest := ih hadded (tried ++ [service])
    dsimp only at hrest
    rw [← hresultw, ← hw, ← hresultv, ← hv] at hrest
    exact hrest

variable (hhost : host.Discreet S common)

include hhost

theorem Alike.serviceNames (h : S.Alike common m pairs w v) (interface : String) :
    let resolve := (Registry.serviceNames host S.registry interface).run
    w.result resolve = v.result resolve ∧
      S.Alike common m pairs (w.after resolve) (v.after resolve) := by
  intro resolve
  have hresolve : ∀ u, S.Aloof common u (u.after resolve) := Registry.serviceNames_keepsTo
    (fun c key group u => .unnoticed (hhost.lookup c key group u)) S.registry interface
  refine ⟨?_, h.aloof_both (hresolve w) (hresolve v)⟩
  rw [Registry.result_serviceNames, Registry.result_serviceNames, h.registry,
    hhost.lookup_alike _ _ _ w v h.common]

/-- Both calls end in the same way.  When they have collected a list, it is the same, and there is
a new pair of watchers. -/
theorem Alike.watchAndCollect (h : S.Alike common m pairs w v) {url : Url}
    (hurl : url.fullString = S.url) :
    let collect := (Registry.watchAndCollect host S.registry url S.sink).run
    (∃ stop, w.result collect = .error stop ∧ v.result collect = .error stop ∧
      S.Alike common m pairs (w.after collect) (v.after collect)) ∨
    ∃ x y urls, ∃ pairs' : Watcher → Watcher → Prop, pairs' x y ∧ x.subscribed = url ∧
      w.result collect = .ok (x, urls) ∧ v.result collect = .ok (y, urls) ∧
      S.Alike common m pairs' (w.after collect) (v.after collect) := by
  intro collect
  obtain ⟨hnames, hresolved⟩ := h.serviceNames hhost url.serviceInterface
  cases hresolve : w.result (Registry.serviceNames host S.registry url.serviceInterface).run with
  | error cause =>
    rw [hresolve] at hnames
    obtain ⟨hresultw, hafterw⟩ := Registry.watchAndCollect_unresolved S.sink hresolve
    obtain ⟨hresultv, hafterv⟩ := Registry.watchAndCollect_unresolved S.sink hnames.symm
    refine Or.inl ⟨.failed cause, hresultw, hresultv, ?_⟩
    rw [hafterw, hafterv]
    exact hresolved
  | ok services =>
    rw [hresolve] at hnames
    have hw := Registry.watchAndCollect_memory S.sink hresolve (m := m)
    have hv := Registry.watchAndCollect_memory S.sink hnames.symm (m := m)
    dsimp only at hw hv
    generalize w.after (Registry.serviceNames host S.registry url.serviceInterface).run = w₁ at *
    generalize v.after (Registry.serviceNames host S.registry url.serviceInterface).run = v₁ at *
    let x := Registry.nextWatcher w₁ S.registry url S.sink services
    let y := Registry.nextWatcher v₁ S.registry url S.sink services
    have hpaired : S.Alike common m (fun a b => pairs a b ∨ a = x ∧ b = y) _ _ :=
      hresolved.pair ⟨rfl, hurl, rfl⟩ rfl rfl
    obtain ⟨hwatchw, hwatchv, hwatched⟩ :=
      hpaired.watchEach host (Or.inr ⟨rfl, rfl⟩) [] services
    obtain ⟨hresultw, hafterw⟩ := hw hresolved.discovery hwatchw
    obtain ⟨hresultv, hafterv⟩ := hv hresolved.symm.discovery hwatchv
    refine Or.inr ⟨x, y, _, fun a b => pairs a b ∨ a = x ∧ b = y, Or.inr ⟨rfl, rfl⟩, rfl,
      hresultw, ?_, ?_⟩
    · rw [hresultv, hwatched.memory]
    · rw [hafterw, hafterv]
      exact hwatched

theorem Alike.deliverInstances (h : S.Alike common m pairs w v) {url : Url}
    (hurl : url.fullString = S.url) :
    let deliver := (Registry.deliverInstances host S.registry url S.sink).run
    ∃ pairs' : Watcher → Watcher → Prop,
      S.Alike common m pairs' (w.after deliver) (v.after deliver) := by
  intro deliver
  rcases h.watchAndCollect hhost hurl with
    ⟨stop, hstopw, hstopv, hstopped⟩ |
      ⟨x, y, urls, pairs', hpair, hsubscribed, hokw, hokv, hcollected⟩
  · refine ⟨pairs, ?_⟩
    rw [(Registry.deliverInstances_stopped hstopw).2, (Registry.deliverInstances_stopped hstopv).2]
    exact hstopped
  · refine ⟨pairs', ?_⟩
    obtain ⟨⟨hregistry, -, -⟩, hy⟩ := hcollected.differ hpair
    have hregistry' : y.registry = S.registry := by
      rw [hy]
      exact hregistry
    have hconcerns : S.concerns ⟨url, S.sink, urls, x⟩ = true :=
      decide_eq_true ⟨hurl, rfl, decide_eq_true hregistry⟩
    have hconcerns' : S.concerns ⟨url, S.sink, urls, y⟩ = true :=
      decide_eq_true ⟨hurl, rfl, decide_eq_true hregistry'⟩
    have hnoted := hcollected.aloof_both
      (.note _ (.instancesDelivered url.fullString x.services urls.length))
      (.note _ (.instancesDelivered url.fullString y.services urls.length))
    obtain ⟨hreaction, htold⟩ := Alike.deliver hhost hnoted hconcerns hconcerns'
    rw [Registry.after_deliverInstances_of_ok hokw, Registry.after_deliverInstances_of_ok hokv,
      hreaction]
    cases World.result _ (host.deliver ⟨url, S.sink, urls, y⟩) with
    | some _ => exact htold
    | none => exact htold.record hpair hsubscribed

theorem Alike.deliverMetadata (h : S.Alike common m pairs w v) {url : Url}
    (hurl : url.fullString = S.url) :
    let deliver := (Registry.deliverMetadata host S.registry url S.sink).run
    S.Alike common m pairs (w.after deliver) (v.after deliver) := by
  intro deliver
  show S.Alike common m pairs (w.after (Registry.deliverMetadata host S.registry url S.sink).run)
    (v.after (Registry.deliverMetadata host S.registry url S.sink).run)
  have hexported : (w.store (w.registry S.registry).metadata).exportedByProtocol =
      (v.store (v.registry S.registry).metadata).exportedByProtocol := by
    rw [h.registry]
    funext interface group version protocol
    simp only [MetadataStore.exportedByProtocol, MetadataStore.exportedUrls, h.exported]
  rw [Registry.deliverMetadata, World.after_get_bind_except, World.after_get_bind_except]
  dsimp only
  rw [hexported]
  split
  · exact h
  · rename_i urls _
    have hnoted := h.aloof_both (.note _ (.metadataDelivered url.fullString urls.length))
      (.note _ (.metadataDelivered url.fullString urls.length))
    have hconcerns : S.concerns ⟨url, S.sink, urls, none⟩ = true :=
      decide_eq_true ⟨hurl, rfl, rfl⟩
    rw [World.after_ofRun_bind, World.after_ofRun_bind, World.after_note, World.after_note,
      World.after_ofReaction, World.after_ofReaction]
    exact (Alike.deliver hhost hnoted hconcerns hconcerns).2

/-- Both worlds subscribe at the seat. -/
theorem Alike.subscribe (h : S.Alike common m pairs w v) {url : Url}
    (hurl : url.fullString = S.url) :
    let subscribe := (Registry.subscribe host S.registry url S.sink).run
    ∃ pairs' : Watcher → Watcher → Prop,
      S.Alike common m pairs' (w.after subscribe) (v.after subscribe) := by
  intro subscribe
  have hanswered : ∃ pairs' : Watcher → Watcher → Prop, S.Alike common m pairs'
      (w.after (Registry.answer host S.registry url S.sink).run)
      (v.after (Registry.answer host S.registry url S.sink).run) := by
    cases hmetadata : Registry.isMetadataUrl url with
    | true =>
      rw [Registry.answer_metadata hmetadata]
      exact ⟨pairs, h.deliverMetadata hhost hurl⟩
    | false =>
      rw [Registry.after_answer_instances hmetadata, Registry.after_answer_instances hmetadata]
      exact (h.drop hurl).deliverInstances hhost hurl
  have hfinish : ∀ u : World (Chronicle σ),
      S.Aloof common (u.after (Registry.answer host S.registry url S.sink).run)
        (u.after subscribe) := by
    intro u
    rcases Registry.subscribe_cases host S.registry url S.sink u with
      ⟨_, -, -, hfinal⟩ | ⟨-, -, hfinal⟩
    · rw [hfinal]
      exact .refl _
    · rw [hfinal]
      exact .subscribeUrl _ url _
  obtain ⟨pairs', hboth⟩ := hanswered
  exact ⟨pairs', hboth.aloof_both (hfinish w) (hfinish v)⟩

omit hhost in
/-- Both worlds unsubscribe at the seat. -/
theorem Alike.unsubscribe (h : S.Alike common m pairs w v) {url : Url}
    (hurl : url.fullString = S.url) :
    S.Alike common m pairs (w.after (Registry.unsubscribe S.registry url S.sink))
      (v.after (Registry.unsubscribe S.registry url S.sink)) :=
  (h.drop hurl).aloof_both (unsubscribed_aloof w) (unsubscribed_aloof v)

end Seat

end ServiceDirectory
