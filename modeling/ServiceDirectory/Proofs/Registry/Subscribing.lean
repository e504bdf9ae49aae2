import ServiceDirectory.Proofs.Metadata.Recording
import ServiceDirectory.Proofs.Registry.Records
import ServiceDirectory.Proofs.Registry.Table

/-!
# The ways through a subscription

A call that subscribes answers first: from the metadata store, or by replacing what the
sink has had and delivering the instances.  It records the URL when the answer has
succeeded and only then.
-/

namespace ServiceDirectory.Registry

variable {κ : Type}

/-! ## Ending subscriptions -/

theorem unwatchAll_removal (d : Discovery) (records : List Subscription) (w : World κ) :
    Removal (d.notifiers w)
      (fun o service => ∃ s ∈ records, o = .watcher s.watcher ∧ service ∈ s.services) w
      (w.after (records.forM fun s => unwatch d s.services s.watcher)) := by
  induction records generalizing w with
  | nil => exact (Removal.refl _ w).congr (by simp)
  | cons s rest ih =>
    have hfirst := unwatch_removal d s.services s.watcher w
    have hrest := ih (w.after (unwatch d s.services s.watcher))
    rw [hfirst.notifiers_eq] at hrest
    refine (hfirst.trans hrest).congr fun o service => ?_
    simp

/-- The world in which the records of a sink for a URL have been taken out of the table, and
nothing else has been done. -/
def withoutRecords (w : World κ) (id : Ref .registry) (url : Url) (sink : Ref .sink) :
    World κ :=
  w.setRegistry id { w.registry id with
    subscriptions := ((w.registry id).subscriptions.take url.fullString sink).2 }

theorem dropSubscription_removal (id : Ref .registry) (url : Url) (sink : Ref .sink)
    (w : World κ) :
    Removal ((w.registry id).discovery.notifiers w)
      (fun o service => ∃ s ∈ ((w.registry id).subscriptions.take url.fullString sink).1,
        o = .watcher s.watcher ∧ service ∈ s.services)
      (withoutRecords w id url sink) (w.after (dropSubscription id url sink)) :=
  unwatchAll_removal (w.registry id).discovery _ (withoutRecords w id url sink)

/-- Ending subscriptions leaves everything in the registry's own record but the table. -/
theorem registry_after_dropSubscription (id : Ref .registry) (url : Url) (sink : Ref .sink)
    (w : World κ) :
    (w.after (dropSubscription id url sink)).registry id =
      { w.registry id with
        subscriptions := ((w.registry id).subscriptions.take url.fullString sink).2 } := by
  have hregistries := congrArg World.registries (dropSubscription_removal id url sink w).elsewhere
  have hsame : (w.after (dropSubscription id url sink)).registry id =
      (withoutRecords w id url sink).registry id := by
    simp only [World.registry, hregistries]
  rw [hsame, withoutRecords, World.registry_setRegistry, if_pos rfl]

theorem store_after_dropSubscription (id : Ref .registry) (url : Url) (sink : Ref .sink)
    (w : World κ) (m : Ref .metadata) :
    (w.after (dropSubscription id url sink)).store m = w.store m := by
  have hstores := congrArg World.stores (dropSubscription_removal id url sink w).elsewhere
  rw [World.store, hstores]
  rfl

theorem next_after_dropSubscription (id : Ref .registry) (url : Url) (sink : Ref .sink)
    (w : World κ) : (w.after (dropSubscription id url sink)).next = w.next := by
  have hnext := congrArg World.next (dropSubscription_removal id url sink w).elsewhere
  exact hnext

theorem leaves_after_dropSubscription (id : Ref .registry) (url : Url) (sink : Ref .sink)
    (w : World κ) :
    ((w.after (dropSubscription id url sink)).registry id).discovery.notifiers
        (w.after (dropSubscription id url sink)) = (w.registry id).discovery.notifiers w := by
  rw [registry_after_dropSubscription, (dropSubscription_removal id url sink w).notifiers_eq]
  rfl

theorem SerialsGivenOut.dropSubscription {id : Ref .registry} {w : World κ}
    (hgiven : SerialsGivenOut id w) (url : Url) (sink : Ref .sink) :
    SerialsGivenOut id (w.after (dropSubscription id url sink)) :=
  SerialsGivenOut.removal (w := withoutRecords w id url sink) hgiven
    (dropSubscription_removal id url sink w)

/-- A call that unsubscribes ends the subscriptions, forgets the URL, and may log it. -/
theorem after_unsubscribe (id : Ref .registry) (url : Url) (sink : Ref .sink) (w : World κ) :
    let dropped := w.after (dropSubscription id url sink)
    let forgotten := dropped.after
      (MetadataStore.unsubscribeUrl (dropped.registry id).metadata url)
    w.after (unsubscribe id url sink) = forgotten ∨
      w.after (unsubscribe id url sink) =
        forgotten.note (.subscriptionForgotten url.fullString) := by
  intro dropped forgotten
  have hfinal : w.after (unsubscribe id url sink) = forgotten.after
      (if dropped.result (MetadataStore.unsubscribeUrl (dropped.registry id).metadata url) = true
        then note (.subscriptionForgotten url.fullString) else pure ()) := by
    rw [unsubscribe, World.after_bind, World.after_bind, World.after_get, World.result_get,
      World.after_bind]
  split at hfinal
  · exact Or.inr (hfinal.trans (World.after_note _ _))
  · exact Or.inl (hfinal.trans (World.after_pure _ _))

/-! ## Answering -/

/-- What a call that subscribes does before it records the URL. -/
def answer (host : Host κ) (id : Ref .registry) (url : Url) (sink : Ref .sink) : Act κ Unit :=
  if isMetadataUrl url then deliverMetadata host id url sink
  else do
    Act.ofRun (dropSubscription id url sink)
    deliverInstances host id url sink

theorem answer_metadata {url : Url} (hurl : isMetadataUrl url = true) (host : Host κ)
    (id : Ref .registry) (sink : Ref .sink) :
    answer host id url sink = deliverMetadata host id url sink := by
  rw [answer, if_pos hurl]

theorem result_answer_instances {url : Url} (hurl : isMetadataUrl url = false) (host : Host κ)
    (id : Ref .registry) (sink : Ref .sink) (w : World κ) :
    w.result (answer host id url sink).run =
      (w.after (dropSubscription id url sink)).result (deliverInstances host id url sink).run := by
  rw [answer, if_neg (by simp [hurl]), World.result_ofRun_bind]

theorem after_answer_instances {url : Url} (hurl : isMetadataUrl url = false) (host : Host κ)
    (id : Ref .registry) (sink : Ref .sink) (w : World κ) :
    w.after (answer host id url sink).run =
      (w.after (dropSubscription id url sink)).after (deliverInstances host id url sink).run := by
  rw [answer, if_neg (by simp [hurl]), World.after_ofRun_bind]

theorem subscribe_eq (host : Host κ) (id : Ref .registry) (url : Url) (sink : Ref .sink) :
    subscribe host id url sink = (do
      answer host id url sink
      discard (Act.ofRun
        (MetadataStore.subscribeUrl ((← get).registry id).metadata url))) := by
  rw [subscribe, answer]
  split
  · rfl
  · rw [bind_assoc]

/-- The URL is recorded when the answer has succeeded and only then. -/
theorem subscribe_cases (host : Host κ) (id : Ref .registry) (url : Url) (sink : Ref .sink)
    (w : World κ) :
    let answered := w.after (answer host id url sink).run
    let result := w.result (subscribe host id url sink).run
    let final := w.after (subscribe host id url sink).run
    (∃ stop, w.result (answer host id url sink).run = .error stop ∧ result = .error stop ∧
      final = answered) ∨
    (w.result (answer host id url sink).run = .ok () ∧ result = .ok () ∧
      final = answered.after
        (MetadataStore.subscribeUrl (answered.registry id).metadata url)) := by
  intro answered result final
  cases hanswer : w.result (answer host id url sink).run with
  | error stop =>
    refine Or.inl ⟨stop, rfl, ?_, ?_⟩
    · show w.result (subscribe host id url sink).run = _
      rw [subscribe_eq, World.result_bind_of_error hanswer]
    · show w.after (subscribe host id url sink).run = _
      rw [subscribe_eq, World.after_bind_of_error hanswer]
  | ok _ =>
    refine Or.inr ⟨rfl, ?_, ?_⟩
    · show w.result (subscribe host id url sink).run = _
      rw [subscribe_eq, World.result_bind_of_ok hanswer]
      rfl
    · show w.after (subscribe host id url sink).run = _
      rw [subscribe_eq, World.after_bind_of_ok hanswer]
      rfl

/-- A subscription to instances ends as their delivery does, once what the sink has had before is
gone; only the URL is recorded after that. -/
theorem subscribe_of_deliverInstances {host : Host κ} {id : Ref .registry} {url : Url}
    {sink : Ref .sink} {w : World κ} {P : Except Stop Unit → World κ → Prop}
    (hurl : isMetadataUrl url = false)
    (hdeliver : P
      ((w.after (dropSubscription id url sink)).result (deliverInstances host id url sink).run)
      ((w.after (dropSubscription id url sink)).after (deliverInstances host id url sink).run)) :
    let result := w.result (subscribe host id url sink).run
    ∃ y, P result y ∧ w.after (subscribe host id url sink).run = match result with
      | .error _ => y
      | .ok _ => y.after (MetadataStore.subscribeUrl (y.registry id).metadata url) := by
  intro result
  rw [← result_answer_instances hurl, ← after_answer_instances hurl] at hdeliver
  rcases subscribe_cases host id url sink w with
    ⟨stop, hanswer, hresult, hfinal⟩ | ⟨hanswer, hresult, hfinal⟩
  · have hstopped : result = .error stop := hresult
    rw [hanswer] at hdeliver
    rw [hstopped, hfinal]
    exact ⟨_, hdeliver, rfl⟩
  · have hdone : result = .ok () := hresult
    rw [hanswer] at hdeliver
    rw [hdone, hfinal]
    exact ⟨_, hdeliver, rfl⟩

/-- Where nothing is collected, nothing else is done. -/
theorem deliverInstances_stopped {host : Host κ} {id : Ref .registry} {url : Url}
    {sink : Ref .sink} {w : World κ} {stop : Stop}
    (hcollect : w.result (watchAndCollect host id url sink).run = .error stop) :
    w.result (deliverInstances host id url sink).run = .error stop ∧
      w.after (deliverInstances host id url sink).run =
        w.after (watchAndCollect host id url sink).run := by
  rw [deliverInstances]
  exact ⟨World.result_bind_of_error hcollect _, World.after_bind_of_error hcollect _⟩

/-- The list that has been collected is delivered, and recorded unless the sink panics. -/
theorem deliverInstances_collected {host : Host κ} {id : Ref .registry} {url : Url}
    {sink : Ref .sink} {w : World κ} {watcher : Watcher} {urls : List Url}
    (hcollect : w.result (watchAndCollect host id url sink).run = .ok (watcher, urls)) :
    let result := w.result (deliverInstances host id url sink).run
    let final := w.after (deliverInstances host id url sink).run
    let telling := (w.after (watchAndCollect host id url sink).run).note
      (.instancesDelivered url.fullString watcher.services urls.length)
    let told := telling.after (host.deliver ⟨url, sink, urls, watcher⟩)
    (∃ payload, telling.result (host.deliver ⟨url, sink, urls, watcher⟩) = some payload ∧
      result = .error (.panicked payload) ∧ final = told) ∨
    (telling.result (host.deliver ⟨url, sink, urls, watcher⟩) = none ∧ result = .ok () ∧
      final = told.after (setSubscriptions id
        ((told.registry id).subscriptions.add url.fullString ⟨sink, watcher⟩))) := by
  intro result final telling told
  let tell : Act κ Unit := Act.ofReaction (host.deliver ⟨url, sink, urls, watcher⟩)
  let record : Act κ Unit := do
    let subscriptions := ((← get).registry id).subscriptions
    Act.ofRun (setSubscriptions id (subscriptions.add url.fullString ⟨sink, watcher⟩))
  have hresult : result = telling.result (tell >>= fun _ => record).run := by
    show w.result (deliverInstances host id url sink).run = _
    rw [deliverInstances, World.result_bind_of_ok hcollect, World.result_ofRun_bind,
      World.after_note]
  have hfinal : final = telling.after (tell >>= fun _ => record).run := by
    show w.after (deliverInstances host id url sink).run = _
    rw [deliverInstances, World.after_bind_of_ok hcollect, World.after_ofRun_bind,
      World.after_note]
  have htell := World.result_ofReaction telling (host.deliver ⟨url, sink, urls, watcher⟩)
  cases hreaction : telling.result (host.deliver ⟨url, sink, urls, watcher⟩) with
  | some payload =>
    rw [hreaction] at htell
    refine Or.inl ⟨payload, rfl, ?_, ?_⟩
    · rw [hresult, World.result_bind_of_error htell]
    · rw [hfinal, World.after_bind_of_error htell, World.after_ofReaction]
  | none =>
    rw [hreaction] at htell
    refine Or.inr ⟨rfl, ?_, ?_⟩
    · rw [hresult, World.result_bind_of_ok htell]
      rfl
    · rw [hfinal, World.after_bind_of_ok htell, World.after_ofReaction]
      rfl

/-- The ways through the delivery of instances: nothing is collected, the sink panics, or
the subscription is recorded. -/
theorem deliverInstances_cases (host : Host κ) (id : Ref .registry) (url : Url)
    (sink : Ref .sink) (w : World κ) :
    let collected := w.after (watchAndCollect host id url sink).run
    let result := w.result (deliverInstances host id url sink).run
    let final := w.after (deliverInstances host id url sink).run
    (∃ stop, w.result (watchAndCollect host id url sink).run = .error stop ∧
      result = .error stop ∧ final = collected) ∨
    ∃ watcher urls,
      w.result (watchAndCollect host id url sink).run = .ok (watcher, urls) ∧
      let telling := collected.note
        (.instancesDelivered url.fullString watcher.services urls.length)
      let told := telling.after (host.deliver ⟨url, sink, urls, watcher⟩)
      (∃ payload, telling.result (host.deliver ⟨url, sink, urls, watcher⟩) = some payload ∧
        result = .error (.panicked payload) ∧ final = told) ∨
      (telling.result (host.deliver ⟨url, sink, urls, watcher⟩) = none ∧ result = .ok () ∧
        final = told.after (setSubscriptions id
          ((told.registry id).subscriptions.add url.fullString ⟨sink, watcher⟩))) := by
  intro collected result final
  cases hcollect : w.result (watchAndCollect host id url sink).run with
  | error stop => exact Or.inl ⟨stop, rfl, deliverInstances_stopped hcollect⟩
  | ok pair => exact Or.inr ⟨pair.1, pair.2, rfl, deliverInstances_collected hcollect⟩

/-! ## What is kept -/

/-- An answer from the metadata store only asks the sink to take it. -/
theorem deliverMetadata_keepsTo {R : World κ → World κ → Prop} {host : Host κ}
    (hhost : host.KeepsTo R) (hrefl : ∀ w, R w w)
    (htrans : ∀ {u v w}, R u v → R v w → R u w) (hnote : ∀ w n, R w (World.note w n))
    (id : Ref .registry) (url : Url) (sink : Ref .sink) (w : World κ) :
    R w (w.after (deliverMetadata host id url sink).run) := by
  rw [deliverMetadata, World.after_get_bind_except]
  dsimp only
  split
  · exact hrefl w
  · rename_i urls _
    rw [World.after_ofRun_bind, World.after_note, World.after_ofReaction]
    exact htrans (hnote w _) (hhost.deliver _ _)

/-- The ways through a delivery of instances as far as the records are concerned: it stops
and leaves them alone, or it completes and adds one. -/
theorem deliverInstances_records {id : Ref .registry} {host : Host κ}
    (hhost : host.KeepsTo (RecordsKept id)) (url : Url) (sink : Ref .sink) (w : World κ) :
    (∃ stop, w.result (deliverInstances host id url sink).run = .error stop ∧
      RecordsKept id w (w.after (deliverInstances host id url sink).run)) ∨
    ∃ watcher v, w.result (deliverInstances host id url sink).run = .ok () ∧
      RecordsKept id w v ∧
      w.after (deliverInstances host id url sink).run = v.after (setSubscriptions id
        ((v.registry id).subscriptions.add url.fullString ⟨sink, watcher⟩)) := by
  have hkept := RecordsKept.disregardsWatching (κ := κ) id
  have hcollected := hkept.watchAndCollect hhost id url sink w
  rcases deliverInstances_cases host id url sink w with
    ⟨stop, -, hresult, hfinal⟩ | ⟨watcher, urls, -, hways⟩
  · rw [hfinal]
    exact Or.inl ⟨stop, hresult, hcollected⟩
  · have htold := hkept.trans hcollected (hkept.trans (hkept.note _
      (.instancesDelivered url.fullString watcher.services urls.length))
      (hhost.deliver ⟨url, sink, urls, watcher⟩ _))
    rcases hways with ⟨payload, -, hresult, hfinal⟩ | ⟨-, hresult, hfinal⟩
    · rw [hfinal]
      exact Or.inl ⟨_, hresult, htold⟩
    · exact Or.inr ⟨watcher, _, hresult, htold, hfinal⟩

theorem aside_subscribeUrl {id : Ref .registry} {counts : Observer → Bool} (w : World κ)
    (m : Ref .metadata) (url : Url) :
    Aside id counts w (w.after (MetadataStore.subscribeUrl m url)) := by
  rw [MetadataStore.after_subscribeUrl]
  exact ⟨rfl, fun _ _ => rfl, fun _ => rfl, fun _ => rfl, Nat.le_refl _⟩

theorem aside_unsubscribeUrl {id : Ref .registry} {counts : Observer → Bool} (w : World κ)
    (m : Ref .metadata) (url : Url) :
    Aside id counts w (w.after (MetadataStore.unsubscribeUrl m url)) := by
  rw [MetadataStore.after_unsubscribeUrl]
  exact ⟨rfl, fun _ _ => rfl, fun _ => rfl, fun _ => rfl, Nat.le_refl _⟩

end ServiceDirectory.Registry
