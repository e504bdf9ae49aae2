import ServiceDirectory.Proofs.Freshness.Telling
import ServiceDirectory.Proofs.Registry.Subscribing

/-!
# Ending subscriptions

A registry changes its own table and the lists of observers without asking anybody.  Such a
step keeps what it does not take away: watchers whose lists are as before stay settled, and
those that are taken off their lists have lost their records.
-/

namespace ServiceDirectory.Site

variable {σ : Type} {S : Site} {w w' : World (Outside σ)}

/-- Only tables of registries and lists of observers may have changed. -/
def Relisted (w w' : World (Outside σ)) : Prop :=
  ∃ registries notifiers, w' = { w with registries, notifiers }

namespace Relisted

theorem of_removal {ns : List (Ref .notifier)} {gone : Observer → String → Bool}
    {v : World (Outside σ)} (h : Relisted w v) (hremoval : Removal ns gone v w') :
    Relisted w w' := by
  obtain ⟨registries, notifiers, rfl⟩ := h
  exact ⟨registries, w'.notifiers, hremoval.elsewhere⟩

theorem grows (h : Relisted w w') : S.Grows w w' := by
  obtain ⟨registries, notifiers, rfl⟩ := h
  exact ⟨Nat.le_refl _, fun _ _ => rfl, fun _ _ _ hservice => hservice⟩

theorem settled (h : Relisted w w') {watcher : Watcher} (hsettled : S.Settled w watcher)
    (htold : ∀ service, .watcher watcher ∈ w'.observersAt S.notifier service ↔
      .watcher watcher ∈ w.observersAt S.notifier service) : S.Settled w' watcher := by
  have hready := hsettled.ready.grows h.grows htold
  obtain ⟨registries, notifiers, rfl⟩ := h
  exact ⟨hready, hsettled.current⟩

theorem sound (h : Relisted w w') (hsound : S.Sound w)
    (hdiscovery : (w'.registry S.registry).discovery = (w.registry S.registry).discovery)
    (hfiled : (w'.registry S.registry).subscriptions.Filed S.registry)
    (hgiven : ∀ watcher, S.Recorded w' watcher → watcher.serial < w.next) : S.Sound w' := by
  obtain ⟨registries, notifiers, rfl⟩ := h
  exact ⟨⟨hdiscovery.trans hsound.discovery, hsound.notifier, hsound.reached, hsound.accepted⟩,
    hfiled, hgiven⟩

end Relisted

/-- The watchers with a record are those of the records that have not been taken. -/
theorem recorded_take {url : Url} {sink : Ref .sink}
    (htable : (w'.registry S.registry).subscriptions =
      ((w.registry S.registry).subscriptions.take url.fullString sink).2) (watcher : Watcher) :
    S.Recorded w' watcher ↔ ∃ url' s, s ∈ (w.registry S.registry).subscriptions.get url' ∧
      ¬(url.fullString = url' ∧ s.sink = sink) ∧ s.watcher = watcher := by
  unfold Recorded
  rw [htable]
  constructor
  · rintro ⟨url', s, hs, hwatcher⟩
    obtain ⟨hget, hother⟩ := SubscriptionTable.mem_get_take.1 hs
    exact ⟨url', s, hget, hother, hwatcher⟩
  · rintro ⟨url', s, hget, hother, hwatcher⟩
    exact ⟨url', s, SubscriptionTable.mem_get_take.2 ⟨hget, hother⟩, hwatcher⟩

/-- A watcher whose record is taken has no other record. -/
theorem Sound.dropped_of_taken (hsound : S.Sound w) {url : Url} {sink : Ref .sink}
    (htable : (w'.registry S.registry).subscriptions =
      ((w.registry S.registry).subscriptions.take url.fullString sink).2) {s : Subscription}
    (hs : s ∈ ((w.registry S.registry).subscriptions.take url.fullString sink).1) :
    S.Dropped w w' s.watcher := by
  refine ⟨⟨url.fullString, s, (SubscriptionTable.mem_fst_take.1 hs).1, rfl⟩, ?_⟩
  rintro ⟨url', s', hs', hwatcher⟩
  rw [htable] at hs'
  exact hsound.filed.watcher_ne_of_take hs hs' hwatcher.symm

/-- A watcher none of whose records is taken stays on its lists. -/
theorem same_of_not_taken {url : Url} {sink : Ref .sink} {watcher : Watcher}
    (htaken : ¬∃ s ∈ ((w.registry S.registry).subscriptions.take url.fullString sink).1,
      s.watcher = watcher) :
    S.Same w (w.after (Registry.dropSubscription S.registry url sink)) watcher := by
  have hrecorded := recorded_take (S := S) (congrArg Registry.subscriptions
    (Registry.registry_after_dropSubscription S.registry url sink w)) watcher
  have hremoval := Registry.dropSubscription_removal S.registry url sink w
  constructor
  · rw [hrecorded]
    constructor
    · rintro ⟨url', s, hget, -, hwatcher⟩
      exact ⟨url', s, hget, hwatcher⟩
    · rintro ⟨url', s, hget, hwatcher⟩
      refine ⟨url', s, hget, ?_, hwatcher⟩
      rintro ⟨rfl, hsink⟩
      exact htaken ⟨s, SubscriptionTable.mem_fst_take.2 ⟨hget, hsink⟩, hwatcher⟩
  · intro service
    rw [hremoval.observers]
    split_ifs with hn
    · rw [List.mem_filter]
      refine and_iff_left ?_
      simp only [Bool.not_eq_true', decide_eq_false_iff_not]
      rintro ⟨s, hs, hwatcher, -⟩
      exact htaken ⟨s, hs, (Observer.watcher.inj hwatcher).symm⟩
    · rfl

theorem dropSubscription_leads (url : Url) (sink : Ref .sink) (w : World (Outside σ)) :
    S.Leads w (w.after (Registry.dropSubscription S.registry url sink)) := by
  have hregistry := Registry.registry_after_dropSubscription S.registry url sink w
  have hrelisted : Relisted w (w.after (Registry.dropSubscription S.registry url sink)) :=
    Relisted.of_removal ⟨_, _, rfl⟩ (Registry.dropSubscription_removal S.registry url sink w)
  have htable := congrArg Registry.subscriptions hregistry
  have hrecorded : ∀ watcher,
      S.Recorded (w.after (Registry.dropSubscription S.registry url sink)) watcher →
        S.Recorded w watcher := by
    intro watcher hmem
    obtain ⟨url', s, hget, -, hwatcher⟩ := (recorded_take htable watcher).1 hmem
    exact ⟨url', s, hget, hwatcher⟩
  refine Leads.intro fun hsound => ?_
  have hcases : ∀ watcher,
      S.Dropped w (w.after (Registry.dropSubscription S.registry url sink)) watcher ∨
        S.Same w (w.after (Registry.dropSubscription S.registry url sink)) watcher := by
    intro watcher
    by_cases htaken : ∃ s ∈ ((w.registry S.registry).subscriptions.take url.fullString sink).1,
        s.watcher = watcher
    · obtain ⟨s, hs, rfl⟩ := htaken
      exact Or.inl (hsound.dropped_of_taken htable hs)
    · exact Or.inr (same_of_not_taken htaken)
  constructor
  · apply hrelisted.sound hsound
    · rw [hregistry]
    · rw [hregistry]
      exact hsound.filed.take url.fullString sink
    · intro watcher hmem
      exact hsound.given watcher (hrecorded watcher hmem)
  · refine hsound.evolves hrelisted.grows hrecorded (fun watcher _ _ => hcases watcher) ?_
    intro watcher _ _ hsettled
    exact (hcases watcher).imp_right fun hsame => hrelisted.settled hsettled hsame.told

theorem Still.setStore (w : World (Outside σ)) (m : Ref .metadata) (store : MetadataStore) :
    S.Still w (w.setStore m store) :=
  Still.sameClient w w.journal (w.stores.insert m store) (Nat.le_refl _)

theorem still_subscribeUrl (m : Ref .metadata) (url : Url) (w : World (Outside σ)) :
    S.Still w (w.after (MetadataStore.subscribeUrl m url)) := by
  rw [MetadataStore.after_subscribeUrl]
  exact (Still.setStore w m _).trans (Still.note _ _)

theorem still_unsubscribeUrl (m : Ref .metadata) (url : Url) (w : World (Outside σ)) :
    S.Still w (w.after (MetadataStore.unsubscribeUrl m url)) := by
  rw [MetadataStore.after_unsubscribeUrl]
  exact (Still.setStore w m _).trans (Still.note _ _)

theorem unsubscribe_leads (url : Url) (sink : Ref .sink) (w : World (Outside σ)) :
    S.Leads w (w.after (Registry.unsubscribe S.registry url sink)) := by
  have hdropped := dropSubscription_leads (S := S) url sink w
  have hfinal := Registry.after_unsubscribe S.registry url sink w
  dsimp only at hfinal
  generalize w.after (Registry.dropSubscription S.registry url sink) = dropped at hdropped hfinal
  have hforgotten := hdropped.trans
    (still_unsubscribeUrl (dropped.registry S.registry).metadata url dropped).leads
  rcases hfinal with hfinal | hfinal
  · rw [hfinal]
    exact hforgotten
  · rw [hfinal]
    exact hforgotten.trans (Still.note _ _).leads

end ServiceDirectory.Site
