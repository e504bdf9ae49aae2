import ServiceDirectory.Proofs.Registry.Invariant

/-!
# Sessions with a registry

A session is a run of calls that subscribe and unsubscribe, one after the other, with
whatever their collaborators and others do in between.  Its log says which calls were made
and which of them completed.
-/

namespace ServiceDirectory

variable {κ : Type}

/-- The collaborators that a registry calls may fail, but do not panic. -/
structure Host.ReturnsNormally (host : Host κ) : Prop where
  deliver : ∀ delivery (w : World κ), w.result (host.deliver delivery) = none
  watch : ∀ b service hook payload (w : World κ),
    w.result (host.watch b service hook) ≠ .error (.panicked payload)

theorem Host.quiet_keepsTo {R : World κ → World κ → Prop} (hrefl : ∀ w, R w w) :
    quiet.KeepsTo R :=
  ⟨fun _ _ _ w => hrefl w, fun _ _ _ w => hrefl w, fun _ _ w => hrefl w, fun _ w => hrefl w⟩

theorem Host.quiet_returnsNormally : (quiet : Host κ).ReturnsNormally :=
  ⟨fun _ _ => rfl, fun _ _ _ _ _ h => nomatch h⟩

namespace Registry

/-! ## One call -/

/-- A call that a client makes on a registry about a subscription. -/
inductive Request
  | subscribe (url : Url) (sink : Ref .sink)
  | unsubscribe (url : Url) (sink : Ref .sink)

/-- What a request makes the registry do. -/
def Request.perform (host : Host κ) (id : Ref .registry) : Request → Act κ Unit
  | subscribe url sink => Registry.subscribe host id url sink
  | unsubscribe url sink => Act.ofRun (Registry.unsubscribe id url sink)

section OneCall

variable {id : Ref .registry} {counts : Observer → Bool} {host : Host κ}

theorem Request.after_perform_unsubscribe (host : Host κ) (id : Ref .registry) (url : Url)
    (sink : Ref .sink) (w : World κ) :
    w.after ((unsubscribe url sink).perform host id).run =
      w.after (Registry.unsubscribe id url sink) := by
  rw [perform, World.after_ofRun]

/-- A property that is kept where things stay aside, by ending a subscription and by
delivering instances to a sink without one is kept by each request. -/
theorem Request.perform_keeps {P : World κ → Prop} (hhost : host.KeepsTo (Aside id counts))
    (haside : ∀ {w w'}, P w → Aside id counts w w' → P w')
    (hdrop : ∀ {w} url sink, P w → P (w.after (dropSubscription id url sink)))
    (hdeliver : ∀ {w} url sink,
      (∀ s ∈ (w.registry id).subscriptions.get url.fullString, s.sink ≠ sink) →
      P w → P (w.after (deliverInstances host id url sink).run))
    (request : Request) {w : World κ} (h : P w) : P (w.after (request.perform host id).run) := by
  cases request with
  | subscribe url sink =>
    have hanswered : P (w.after (answer host id url sink).run) := by
      cases hurl : isMetadataUrl url with
      | true =>
        rw [answer_metadata hurl]
        exact haside h
          (deliverMetadata_keepsTo hhost Aside.refl Aside.trans Aside.note id url sink w)
      | false =>
        rw [after_answer_instances hurl]
        refine hdeliver url sink (fun s hs hsink => ?_) (hdrop url sink h)
        rw [registry_after_dropSubscription] at hs
        exact (SubscriptionTable.mem_get_take.1 hs).2 ⟨rfl, hsink⟩
    have hways := subscribe_cases host id url sink w
    dsimp only at hways
    generalize w.after (answer host id url sink).run = answered at hanswered hways
    show P (w.after (Registry.subscribe host id url sink).run)
    rcases hways with ⟨stop, -, -, hfinal⟩ | ⟨-, -, hfinal⟩
    · rw [hfinal]
      exact hanswered
    · rw [hfinal]
      exact haside hanswered (aside_subscribeUrl answered (answered.registry id).metadata url)
  | unsubscribe url sink =>
    rw [after_perform_unsubscribe]
    have hdropped := hdrop url sink h
    have hfinal := after_unsubscribe id url sink w
    dsimp only at hfinal
    generalize w.after (dropSubscription id url sink) = dropped at hdropped hfinal
    have hforgotten := haside hdropped
      (aside_unsubscribeUrl dropped (dropped.registry id).metadata url)
    rcases hfinal with hfinal | hfinal
    · rw [hfinal]
      exact hforgotten
    · rw [hfinal]
      exact haside hforgotten (Aside.note _ _)

theorem Matched.deliverInstances {w : World κ} (h : Matched id w)
    (hhost : host.KeepsTo (Aside id (Observer.isWatcherOf id))) (hreturns : host.ReturnsNormally)
    (url : Url) (sink : Ref .sink)
    (hnew : ∀ s ∈ (w.registry id).subscriptions.get url.fullString, s.sink ≠ sink) :
    Matched id (w.after (deliverInstances host id url sink).run) := by
  rcases deliverInstances_cases host id url sink w with
    ⟨stop, hcollect, -, hfinal⟩ | ⟨watcher, urls, hcollect, ⟨payload, htold, -, -⟩ | ⟨-, -, hfinal⟩⟩
  · rw [hfinal]
    cases stop with
    | failed cause =>
      exact h.aside (watchAndCollect_failed hhost isWatcherOf_of_registry h.given hcollect)
    | panicked payload =>
      obtain ⟨-, b, service, hook, v, hwatch⟩ :=
        watchAndCollect_panicked hhost isWatcherOf_of_registry hcollect
      exact absurd hwatch (hreturns.watch b service hook payload v)
  · rw [hreturns.deliver] at htold
    cases htold
  · have hplace := watchAndCollect_ok hhost isWatcherOf_of_registry hcollect
    have htold := (Aside.note _ _).trans (hhost.deliver ⟨url, sink, urls, watcher⟩
      ((w.after (watchAndCollect host id url sink).run).note
        (.instancesDelivered url.fullString watcher.services urls.length)))
    rw [hfinal]
    exact h.record (hplace.aside htold (isWatcherOf_of_registry watcher hplace.registry)) hnew

/-- Watchers and records are in step after each call. -/
theorem Matched.perform {w : World κ} (h : Matched id w)
    (hhost : host.KeepsTo (Aside id (Observer.isWatcherOf id))) (hreturns : host.ReturnsNormally)
    (request : Request) : Matched id (w.after (request.perform host id).run) :=
  request.perform_keeps hhost Matched.aside (fun url sink h => h.dropSubscription url sink)
    (fun url sink hnew h => h.deliverInstances hhost hreturns url sink hnew) h

end OneCall

/-! ## A session -/

/-- The worlds that a session can reach from `start`, with the log of its calls, latest
first.  Between calls things may change as `R` allows. -/
inductive Session (host : Host κ) (id : Ref .registry) (R : World κ → World κ → Prop)
    (start : World κ) : List (Request × Bool) → World κ → Prop
  | nothing : Session host id R start [] start
  | call {log : List (Request × Bool)} {w : World κ} (request : Request)
    (h : Session host id R start log w) :
    Session host id R start
      ((request, (w.result (request.perform host id).run).isOk) :: log)
      (w.after (request.perform host id).run)
  | meanwhile {log : List (Request × Bool)} {w w' : World κ}
    (h : Session host id R start log w) (hchange : R w w') :
    Session host id R start log w'

/-- A registry without subscriptions and without watchers. -/
structure Unused (id : Ref .registry) (w : World κ) : Prop where
  subscriptions : (w.registry id).subscriptions = .empty
  unwatched : ∀ n service, ∀ watcher : Watcher, watcher.registry = id →
    .watcher watcher ∉ w.observersAt n service

/-- A registry that has just been made is unused, unless its reference was known before. -/
theorem create_unused {w : World κ} (hunknown : ∀ n service, ∀ watcher : Watcher,
      watcher.registry = ⟨w.next⟩ → .watcher watcher ∉ w.observersAt n service)
    (url : Url) (group : String) (metadata : Ref .metadata) (discovery : Discovery)
    (configuration : Ref .configuration) :
    Unused (w.result (create url group metadata discovery configuration))
      (w.after (create url group metadata discovery configuration)) where
  subscriptions := by
    show ((World.setRegistry _ _ _).registry _).subscriptions = _
    simp [create, freshRef]
  unwatched := hunknown

theorem Unused.matched {id : Ref .registry} {w : World κ} (h : Unused id w) : Matched id w where
  tidy := h.subscriptions ▸ SubscriptionTable.tidy_empty
  filed := h.subscriptions ▸ SubscriptionTable.filed_empty id
  given n service watcher hregistry hmem := absurd hmem (h.unwatched n service watcher hregistry)
  nodup n service := by
    have hnone : (w.observersAt n service).filter (Observer.isWatcherOf id) = [] := by
      rw [List.filter_eq_nil_iff]
      intro o ho
      cases o with
      | client listener => simp [Observer.isWatcherOf]
      | watcher watcher =>
        intro hregistry
        exact h.unwatched n service watcher (of_decide_eq_true hregistry) ho
    rw [hnone]
    exact List.nodup_nil
  same n _ service watcher hregistry := by
    constructor
    · intro hmem
      exact absurd hmem (h.unwatched n service watcher hregistry)
    · rintro ⟨s, hs, -⟩
      rw [h.subscriptions] at hs
      cases hs

/-- Watchers and records are in step throughout a session. -/
theorem Session.matched {host : Host κ} {id : Ref .registry} {start w : World κ}
    {log : List (Request × Bool)}
    (h : Session host id (Aside id (Observer.isWatcherOf id)) start log w)
    (hhost : host.KeepsTo (Aside id (Observer.isWatcherOf id)))
    (hreturns : host.ReturnsNormally) (hstart : Matched id start) : Matched id w := by
  induction h with
  | nothing => exact hstart
  | call request _ ih => exact ih.perform hhost hreturns request
  | meanwhile _ hchange ih => exact ih.aside hchange

/-- No watcher is leaked and none is missing: throughout a session the watchers of the
registry on each list of each leaf are those of the recorded subscriptions to which the
service belongs, each once, and the table stays tidy. -/
theorem watchers_eq_records {host : Host κ} {id : Ref .registry} {start w : World κ}
    {log : List (Request × Bool)}
    (hhost : host.KeepsTo (Aside id (Observer.isWatcherOf id)))
    (hreturns : host.ReturnsNormally) (hstart : Unused id start)
    (hsession : Session host id (Aside id (Observer.isWatcherOf id)) start log w) :
    (∀ n ∈ (w.registry id).discovery.notifiers w, ∀ service,
      ((w.observersAt n service).filter (Observer.isWatcherOf id)).Perm
        (((w.registry id).subscriptions.all.filter fun s => service ∈ s.services).map
          fun s => .watcher s.watcher)) ∧
    (w.registry id).subscriptions.Tidy := by
  have hmatched := hsession.matched hhost hreturns hstart.matched
  exact ⟨fun n hn service => hmatched.perm hn service, hmatched.tidy⟩

/-- A world with one registry over one source in memory, which nobody uses yet. -/
def ready (client : κ) : World κ :=
  (World.initial client).after
    (create (.ofParts "service-discovery-registry" "h" none "") "g" ⟨1⟩ (.memory ⟨2⟩) ⟨3⟩)

theorem ready_unused (client : κ) : Unused ⟨0⟩ (ready client) :=
  create_unused (w := World.initial client) (fun _ _ _ _ => List.not_mem_nil) _ _ _ _ _

/-- One subscription with quiet collaborators completes, and its watcher is the one on the
list of its service. -/
theorem watchers_eq_records_quiet :
    ∃ w, Session Host.quiet ⟨0⟩ (Aside ⟨0⟩ (Observer.isWatcherOf ⟨0⟩)) (ready ())
        [(.subscribe (.ofParts "consumer" "h" none "a") ⟨7⟩, true)] w ∧
      (w.observersAt ⟨0⟩ "a").length = 1 ∧
      (∀ n ∈ (w.registry ⟨0⟩).discovery.notifiers w, ∀ service,
        ((w.observersAt n service).filter (Observer.isWatcherOf ⟨0⟩)).Perm
          (((w.registry ⟨0⟩).subscriptions.all.filter fun s => service ∈ s.services).map
            fun s => .watcher s.watcher)) ∧
      (w.registry ⟨0⟩).subscriptions.Tidy := by
  have hnothing : Session Host.quiet ⟨0⟩ (Aside ⟨0⟩ (Observer.isWatcherOf ⟨0⟩)) (ready ()) []
      (ready ()) := .nothing
  have hsession := hnothing.call (.subscribe (.ofParts "consumer" "h" none "a") ⟨7⟩)
  refine ⟨_, hsession, ?_, ?_⟩
  · decide
  · exact watchers_eq_records (Host.quiet_keepsTo Aside.refl) Host.quiet_returnsNormally
      (ready_unused ()) hsession

end Registry

end ServiceDirectory
