import ServiceDirectory.Discovery.Backed
import ServiceDirectory.Proofs.Freshness.Telling

/-!
# Reports of a backend

A backend reports a change by calling the hooks that it has accepted.  A hook dispatches an
event, either at once or as a task for an executor, and the bridge on the dispatcher passes
the event on to the notifier.  Watchers are settled in either case: they have been told, or a
task is waiting that will tell them.
-/

namespace ServiceDirectory

variable {κ : Type}

/-- A report is answered with a query and passed on, unless the backend is gone or does not
answer. -/
theorem WatchHook.fire_cases (host : Host κ) (hook : WatchHook) (service : String)
    (w : World κ) :
    let v := w.after (host.enter (.backend hook.backend))
    let ask := host.instances hook.backend service
    let final := w.after (hook.fire host service)
    (w.result (host.enter (.backend hook.backend)) = false ∧ final = v) ∨
    (∃ cause, v.result ask = .error cause ∧
      final = ((v.after ask).note (.changeQueryFailed hook.source service cause.message)).after
        (host.leave (.backend hook.backend))) ∨
    (∃ instances, v.result ask = .ok instances ∧
      final = (((v.after ask).note (.changeReported hook.source service instances.length)).after
        (Dispatcher.dispatch host hook.dispatcher
          (.raise hook.source (.membership service instances)))).after
            (host.leave (.backend hook.backend))) := by
  intro v ask final
  have hfinal : final = w.after (hook.fire host service) := rfl
  rw [WatchHook.fire, World.after_bind] at hfinal
  cases hentered : w.result (host.enter (.backend hook.backend)) with
  | false =>
    rw [hentered] at hfinal
    exact Or.inl ⟨rfl, hfinal⟩
  | true =>
    rw [hentered, if_pos rfl, World.after_bind] at hfinal
    refine Or.inr ?_
    cases hasked : v.result ask with
    | error cause =>
      refine Or.inl ⟨cause, rfl, ?_⟩
      rw [hfinal, hasked]
      rfl
    | ok instances =>
      refine Or.inr ⟨instances, rfl, ?_⟩
      rw [hfinal, hasked]
      rfl

theorem WatchHook.after_fire_of_gone {host : Host κ} {hook : WatchHook} {w : World κ}
    (h : w.result (host.enter (.backend hook.backend)) = false) (service : String) :
    w.after (hook.fire host service) = w.after (host.enter (.backend hook.backend)) := by
  rw [fire, World.after_bind, h]
  rfl

variable {σ : Type}

namespace Site

variable {S : Site} {host : Host (Outside σ)} (hhost : S.Behaves S.Leads host)

include hhost

theorem listener_tells (event : Event) (l : Listener) (w : World (Outside σ)) :
    S.Tells (fun watcher => (∃ serial, l = .bridge serial S.notifier) ∧
      ∃ service ∈ watcher.services, ∃ instances, event.content = .membership service instances) w
      (w.after (l.invoke host event)) := by
  apply contain_tells
  cases l with
  | observer o =>
    refine (react_tells hhost event o w).leads.mono ?_
    rintro - watcher - - ⟨⟨serial, ⟨⟩⟩, -⟩
  | bridge serial n =>
    refine (notify_tells hhost n event w).mono ?_
    rintro - watcher - - ⟨⟨serial', ⟨⟩⟩, hconcerned⟩
    exact ⟨rfl, hconcerned⟩

/-- A task tells the watchers of its service when it captured the bridge. -/
theorem run_tells (task : Task) (w : World (Outside σ)) :
    S.Tells (fun watcher => ∃ service ∈ watcher.services, S.TellsOf task service) w
      (w.after (task.run host)) := by
  rw [Task.run, World.after_bind, World.after_get, World.result_get]
  have hone : ∀ registration ∈ task.buckets.matching w.priority task.event.kind, ∀ v,
      S.Tells (fun watcher => (∃ serial, registration.listener = .bridge serial S.notifier) ∧
        ∃ service ∈ watcher.services, ∃ instances,
          task.event.content = .membership service instances) v
        (v.after (discard (registration.listener.invoke host task.event))) := by
    intro registration _ v
    rw [World.after_discard]
    exact listener_tells hhost task.event registration.listener v
  refine (Leads.forM _ hone w).mono ?_
  rintro - watcher - - ⟨service, hservice, ⟨instances, hcontent⟩, registration, hmem, hbridge⟩
  have hkind : task.event.kind = .membership := by
    rw [Event.kind, hcontent]
    rfl
  refine ⟨registration, ?_, hbridge, service, hservice, instances, hcontent⟩
  rw [Buckets.matching, inOrder, List.mem_mergeSort, hkind]
  exact hmem

/-- A dispatch tells the watchers of the service when the bridge is on the dispatcher, now or
through the task that it hands over. -/
theorem dispatch_tells (id : Ref .dispatcher) (event : Event) (w : World (Outside σ)) :
    S.Tells (fun watcher => ∃ service ∈ watcher.services,
      S.TellsOf ⟨(w.dispatcher id).roster.buckets.entries, event⟩ service) w
      (w.after (Dispatcher.dispatch host id event)) := by
  rw [Dispatcher.dispatch, World.after_bind, World.after_get, World.result_get]
  dsimp only
  cases (w.dispatcher id).executor with
  | direct => exact run_tells hhost _ w
  | external executor => exact (handing_tells _ w).trans_leads (hhost.handOff executor _ w)

/-- The hook of the source tells the watchers of the service. -/
theorem fire_tells (hook : WatchHook) (service : String) (w : World (Outside σ)) :
    S.Tells (fun watcher => service ∈ watcher.services ∧
      ∃ b, S.discovery = .backed b ∧ hook = (w.source b).hook) w
      (w.after (hook.fire host service)) := by
  have hways := hook.fire_cases host service w
  dsimp only at hways
  have hentered : S.Still w (w.after (host.enter (.backend hook.backend))) := hhost.enter _ w
  generalize w.after (host.enter (.backend hook.backend)) = v at hentered hways
  have hasked : S.Still w (v.after (host.instances hook.backend service)) :=
    hentered.trans (hhost.instances _ _ v)
  rcases hways with ⟨hgone, -⟩ | ⟨cause, hresult, -⟩ | ⟨instances, hresult, hfinal⟩
  · rw [hhost.enter_true] at hgone
    cases hgone
  · rw [hhost.instances_ok] at hresult
    cases hresult
  · generalize v.after (host.instances hook.backend service) = u at hasked hfinal
    have hnoted := hasked.trans
      (Still.note u (.changeReported hook.source service instances.length))
    have hdispatched := dispatch_tells hhost hook.dispatcher
      (.raise hook.source (.membership service instances))
      (u.note (.changeReported hook.source service instances.length))
    have htold := hnoted.leads.trans_tells
      (hdispatched.trans_leads (hhost.leave (.backend hook.backend) _).leads)
    rw [hfinal]
    refine htold.mono ?_
    rintro hsound watcher - - ⟨hservice, b, hb, rfl⟩
    have hreached := (hnoted.sound hsound).reached b hb
    rw [Still.dispatcher_eq (hnoted.source b hb)] at hreached
    exact ⟨service, hservice, ⟨instances, rfl⟩, hreached⟩

end Site

end ServiceDirectory
