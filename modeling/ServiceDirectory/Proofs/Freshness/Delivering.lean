import ServiceDirectory.Proofs.Freshness.Joining

/-!
# The first delivery

When its watcher is in place, a call asks the source and delivers what it has been told.
Between the question and the start of the delivery nothing happens, so from then on the
watcher is settled, and it still is when the sink returns and the call records it.
-/

namespace ServiceDirectory.Site

variable {σ : Type} (S : Site)

/-- A call has placed its watcher and has asked the source. -/
structure Collected (url : Url) (sink : Ref .sink) (watcher : Watcher) (urls : List Url)
    (w w' : World (Outside σ)) : Prop where
  prepares : S.Prepares watcher w w'
  fresh : w.next ≤ watcher.serial
  subscribed : watcher.subscribed = url
  sink : watcher.sink = sink
  ready : S.Ready w' watcher
  current : urls = S.urls w' watcher.subscribed watcher.services

variable {S} {watcher : Watcher} {w v w' : World (Outside σ)}

/-- A call that gives up has done nothing to any other watcher. -/
theorem Prepares.abandon (h : S.Prepares watcher w w') (hfresh : w.next ≤ watcher.serial) :
    S.Sound w' ∧ S.Evolves (fun _ => False) (S.Settled w) w w' := by
  refine ⟨h.owns.sound, h.evolves.release ?_ ?_⟩
  · rintro x rfl
    exact hfresh
  · rintro x rfl hmem
    exact absurd hmem h.owns.unrecorded

theorem Still.givenOut (w : World (Outside σ)) : S.Still w { w with next := w.next + 1 } :=
  Still.sameClient w w.journal w.stores (Nat.le_succ _)

/-- The next watcher belongs to nobody yet. -/
theorem Sound.owns_next (hsound : S.Sound w) (url : Url) (sink : Ref .sink)
    (services : List String) :
    S.Owns (Registry.nextWatcher w S.registry url sink services) { w with next := w.next + 1 } := by
  refine ⟨(Still.givenOut w).sound hsound, rfl, Nat.lt_succ_self w.next, ?_⟩
  intro hmem
  have hgiven := hsound.given _ (((Still.givenOut w).recorded _).1 hmem)
  exact Nat.lt_irrefl _ hgiven

/-- A watcher is recorded besides those that were. -/
theorem recorded_add {url : Url} {sink : Ref .sink}
    (htable : (w'.registry S.registry).subscriptions =
      (w.registry S.registry).subscriptions.add url.fullString ⟨sink, watcher⟩) (x : Watcher) :
    S.Recorded w' x ↔ S.Recorded w x ∨ x = watcher := by
  unfold Recorded
  rw [htable]
  constructor
  · rintro ⟨url', s, hs, hwatcher⟩
    rcases SubscriptionTable.mem_get_add.1 hs with hs | ⟨-, rfl⟩
    · exact Or.inl ⟨url', s, hs, hwatcher⟩
    · exact Or.inr hwatcher.symm
  · rintro (⟨url', s, hs, hwatcher⟩ | rfl)
    · exact ⟨url', s, SubscriptionTable.mem_get_add.2 (Or.inl hs), hwatcher⟩
    · exact ⟨_, _, SubscriptionTable.mem_get_add.2 (Or.inr ⟨rfl, rfl⟩), rfl⟩

/-- Recording a settled watcher. -/
theorem Owns.record (h : S.Owns watcher w) (hsettled : S.Settled w watcher) :
    let final := w.after (Registry.setSubscriptions S.registry
      ((w.registry S.registry).subscriptions.add watcher.subscribed.fullString
        ⟨watcher.sink, watcher⟩))
    S.Sound final ∧ S.Evolves (· = watcher) (S.Settled w) w final ∧ S.Settled final watcher := by
  intro final
  have hrelisted : Relisted w final := ⟨_, _, rfl⟩
  have hregistry : final.registry S.registry = { w.registry S.registry with
      subscriptions := (w.registry S.registry).subscriptions.add watcher.subscribed.fullString
        ⟨watcher.sink, watcher⟩ } := by
    simp [final, Registry.setSubscriptions]
  have htold : ∀ x : Watcher, ∀ service, .watcher x ∈ final.observersAt S.notifier service ↔
      .watcher x ∈ w.observersAt S.notifier service := fun _ _ => Iff.rfl
  have hrecorded : ∀ x, S.Recorded final x ↔ S.Recorded w x ∨ x = watcher :=
    recorded_add (congrArg Registry.subscriptions hregistry)
  refine ⟨?_, ?_, hrelisted.settled hsettled (htold watcher)⟩
  · apply hrelisted.sound h.sound
    · rw [hregistry]
    · rw [hregistry]
      exact h.sound.filed.add h.registry rfl rfl
    · intro x hmem
      rcases (hrecorded x).1 hmem with hmem | rfl
      · exact h.sound.given x hmem
      · exact h.serial_lt
  · have hsame : ∀ x, x ≠ watcher → S.Same w final x := by
      intro x hother
      refine ⟨?_, htold x⟩
      rw [hrecorded, or_iff_left hother]
    refine ⟨hrelisted.grows, ?_, ?_, ?_⟩
    · intro x _ hother _
      exact Or.inr (hsame x hother)
    · intro x _ hother _ hx
      exact Or.inr (hrelisted.settled hx (htold x))
    · intro x _ hother hserial hmem
      have hgiven := h.sound.given x ((hsame x hother).recorded.1 hmem)
      exact absurd hgiven (Nat.not_lt.2 hserial)

section Behaving

variable {host : Host (Outside σ)} (hhost : S.Behaves S.Leads host)

include hhost

/-- Asking the source for the first list leaves the call's watcher where it is. -/
theorem Prepares.ask (h : S.Prepares watcher w v) (url : Url) (services : List String) :
    S.Prepares watcher w (v.after (instanceUrls host S.discovery url services).run) :=
  h.trans (h.owns.prepares (still_instanceUrls hhost S.discovery url services v).leads)

/-- When the watcher could be placed and the source has answered, the watcher is ready and
the list is current: it was asked for when the watcher was in place. -/
theorem Prepares.collected (h : S.Prepares watcher w v) (hfresh : w.next ≤ watcher.serial)
    {urls : List Url} :
    let watch := (Registry.watchEach host S.discovery watcher [] watcher.services).run
    let collect := (instanceUrls host S.discovery watcher.subscribed watcher.services).run
    v.result watch = .ok () → (v.after watch).result collect = .ok urls →
      S.Collected watcher.subscribed watcher.sink watcher urls w
        ((v.after watch).after collect) := by
  intro watch collect hok hanswered
  obtain ⟨hwatched, hgains⟩ := h.owns.watchEach hhost [] watcher.services
  have hasked : S.Still (v.after watch) ((v.after watch).after collect) :=
    still_instanceUrls hhost S.discovery watcher.subscribed watcher.services _
  have hanswer : (v.after watch).result collect =
      .ok (S.urls (v.after watch) watcher.subscribed watcher.services) :=
    result_instanceUrls hhost watcher.subscribed watcher.services hwatched.owns.sound
  refine ⟨(h.trans hwatched).ask hhost _ _, hfresh, rfl, rfl, ?_, ?_⟩
  · intro service hservice
    exact hwatched.owns.placed hasked.leads (hgains hok service (Or.inr hservice))
  · rw [hasked.urls_eq]
    rw [hanswer] at hanswered
    exact (Except.ok.inj hanswered).symm

/-- A call that watches and collects gives up, or has its watcher ready and the current list
in hand. -/
theorem Sound.watchAndCollect (hsound : S.Sound w) (url : Url) (sink : Ref .sink) :
    let result := w.result (Registry.watchAndCollect host S.registry url sink).run
    let final := w.after (Registry.watchAndCollect host S.registry url sink).run
    (∃ stop, result = .error stop ∧ S.Sound final ∧
      S.Evolves (fun _ => False) (S.Settled w) w final) ∨
    ∃ watcher urls, result = .ok (watcher, urls) ∧
      S.Collected url sink watcher urls w final := by
  intro result final
  have hresolved : S.Leads w
      (w.after (Registry.serviceNames host S.registry url.serviceInterface).run) :=
    Registry.serviceNames_keepsTo hhost.lookup S.registry url.serviceInterface w
  rcases Registry.watchAndCollect_cases host S.registry url sink w with
    ⟨cause, hresult, hfinal⟩ | ⟨services, hways⟩
  · refine Or.inl ⟨_, hresult, ?_⟩
    show S.Sound (w.after _) ∧ S.Evolves _ _ w (w.after _)
    rw [hfinal]
    exact ⟨(hresolved hsound).1, hresolved.evolves hsound⟩
  dsimp only at hways
  change (∃ stop, _ ∧ result = _ ∧ final = _) ∨ (∃ cause, _ ∧ result = _ ∧ final = _) ∨
    ∃ urls, _ ∧ _ ∧ result = _ ∧ final = _ at hways
  generalize result = result, final = final at hways ⊢
  generalize w.after (Registry.serviceNames host S.registry url.serviceInterface).run = v
    at hresolved hways
  have hsoundResolved := (hresolved hsound).1
  rw [hsoundResolved.discovery] at hways
  let watcher := Registry.nextWatcher v S.registry url sink services
  have hfresh : w.next ≤ watcher.serial := (hresolved hsound).2.grows.next_le
  have hstarted : S.Prepares watcher w { v with next := v.next + 1 } := by
    refine ⟨hsoundResolved.owns_next url sink services, ?_⟩
    exact (hresolved.evolves hsound).trans ((Still.givenOut v).evolves hsoundResolved)
  have hwatched := hstarted.trans (hstarted.owns.watchEach hhost [] services).1
  rcases hways with ⟨stop, -, hresult, rfl⟩ | ⟨cause, -, hresult, rfl⟩ |
    ⟨urls, hok, hanswered, hresult, rfl⟩
  · exact Or.inl ⟨stop, hresult, hwatched.abandon hfresh⟩
  · have hasked := hwatched.ask hhost url services
    refine Or.inl ⟨_, hresult, ?_⟩
    exact (hasked.trans (hasked.owns.unwatch S.discovery services)).abandon hfresh
  · exact Or.inr ⟨watcher, urls, hresult, hstarted.collected hhost hfresh hok hanswered⟩

/-- The delivery of what has been collected settles the watcher, although it is not recorded
yet: it starts with the current list, and whatever changes after that is told. -/
theorem Collected.deliver {urls : List Url}
    (h : S.Collected watcher.subscribed watcher.sink watcher urls w v) (notice : Notice) :
    let told := (v.note notice).after
      (host.deliver ⟨watcher.subscribed, watcher.sink, urls, watcher⟩)
    S.Prepares watcher w told ∧ S.Settled told watcher := by
  intro told
  have hnoted : S.Still v (v.note notice) := Still.note v notice
  have htelling := h.prepares.trans (h.prepares.owns.prepares hnoted.leads)
  have hready : S.Ready (v.note notice) watcher := fun service hservice =>
    h.prepares.owns.placed hnoted.leads (h.ready service hservice)
  have hcurrent : urls = S.urls (v.note notice) watcher.subscribed watcher.services := by
    rw [hnoted.urls_eq]
    exact h.current
  have htold := deliver_tells hhost watcher watcher.sink (v.note notice) fun _ => hcurrent
  constructor
  · exact htelling.trans (htelling.owns.prepares htold.leads)
  · have hevolves := (htold htelling.owns.sound).2
    rcases hevolves.settled watcher htelling.owns.registry (fun hnone => hnone)
      htelling.owns.serial_lt (Or.inr ⟨rfl, hready⟩) with hdrop | hsettled
    · exact absurd hdrop.1 htelling.owns.unrecorded
    · exact hsettled

theorem deliverInstances_leads (url : Url) (sink : Ref .sink) (w : World (Outside σ)) :
    S.Leads w (w.after (Registry.deliverInstances host S.registry url sink).run) := by
  refine Leads.intro fun hsound => ?_
  have hways := Registry.deliverInstances_cases host S.registry url sink w
  have hcollect := hsound.watchAndCollect hhost url sink
  dsimp only at hways hcollect
  generalize w.result (Registry.watchAndCollect host S.registry url sink).run = collected
    at hways hcollect
  generalize w.after (Registry.watchAndCollect host S.registry url sink).run = v at hways hcollect
  generalize w.after (Registry.deliverInstances host S.registry url sink).run = final at hways ⊢
  rcases hcollect with ⟨stop, rfl, hgaveUp⟩ | ⟨watcher, urls, rfl, hcollected⟩
  · rcases hways with ⟨stop', -, -, rfl⟩ | ⟨watcher, urls, hok, -⟩
    · exact hgaveUp
    · cases hok
  rcases hways with ⟨stop', hstop, -⟩ | ⟨watcher', urls', hok, hways⟩
  · cases hstop
  cases hok
  obtain rfl := hcollected.subscribed
  obtain rfl := hcollected.sink
  obtain ⟨hprepared, hsettled⟩ := hcollected.deliver hhost
    (.instancesDelivered watcher.subscribed.fullString watcher.services urls.length)
  rcases hways with ⟨payload, -, -, rfl⟩ | ⟨-, -, rfl⟩
  · exact hprepared.abandon hcollected.fresh
  · obtain ⟨hsound', hevolves, hsettled'⟩ := hprepared.owns.record hsettled
    refine ⟨hsound', (hprepared.evolves.trans hevolves).release ?_ ?_⟩
    · rintro x rfl
      exact hcollected.fresh
    · rintro x rfl -
      exact hsettled'

theorem deliverMetadata_leads (url : Url) (sink : Ref .sink) (w : World (Outside σ)) :
    S.Leads w (w.after (Registry.deliverMetadata host S.registry url sink).run) := by
  rw [Registry.deliverMetadata, World.after_get_bind_except]
  dsimp only
  split
  · exact Leads.refl w
  · rename_i urls _
    rw [World.after_ofRun_bind, World.after_note, World.after_ofReaction]
    let delivery : Delivery := ⟨url, sink, urls, none⟩
    let noted := w.note (.metadataDelivered url.fullString urls.length)
    have hother : ∀ watcher : Watcher, watcher.registry = S.registry →
        delivery.watcher ≠ some watcher := by
      intro watcher _ hnone
      cases hnone
    have hstarted : S.Still noted (noted.starting delivery) := Still.starting noted hother
    exact (Still.note w _).leads.trans (hstarted.leads.trans (hhost.deliver delivery noted))

theorem subscribe_leads (url : Url) (sink : Ref .sink) (w : World (Outside σ)) :
    S.Leads w (w.after (Registry.subscribe host S.registry url sink).run) := by
  have hanswered : S.Leads w (w.after (Registry.answer host S.registry url sink).run) := by
    cases hurl : Registry.isMetadataUrl url with
    | true =>
      rw [Registry.answer_metadata hurl]
      exact deliverMetadata_leads hhost url sink w
    | false =>
      rw [Registry.after_answer_instances hurl]
      exact (dropSubscription_leads url sink w).trans (deliverInstances_leads hhost url sink _)
  have hways := Registry.subscribe_cases host S.registry url sink w
  dsimp only at hways
  generalize w.after (Registry.answer host S.registry url sink).run = answered
    at hanswered hways
  rcases hways with ⟨stop, -, -, hfinal⟩ | ⟨-, -, hfinal⟩
  · rw [hfinal]
    exact hanswered
  · rw [hfinal]
    exact hanswered.trans (still_subscribeUrl _ url answered).leads

end Behaving

end ServiceDirectory.Site
