import ServiceDirectory.Proofs.Leaving.Tending
import ServiceDirectory.Proofs.Registrar.Performing

/-!
# Telling of changes while a seat is followed

Observers that are told of a change may do whatever the collaborators behind them may do, and so
records and watchers go on as they should.  As long as a seat is gone, none of its watchers is on
the list of a notifier, so nobody is told who would deliver to it.
-/

namespace ServiceDirectory.Seat

variable {σ : Type} {S : Seat} {host : Host (Notebook σ)}

theorem tends_disregardsLog (S : Seat) : DisregardsLog (S.Tends (σ := σ)) :=
  ⟨.refl, .trans, fun w n => (Still.note w n).leads.tends⟩

theorem leads_disregardsLog (S : Seat) : DisregardsLog (S.Leads (σ := σ)) :=
  ⟨.refl, .trans, fun w n => (Still.note w n).leads⟩

section Behaving

variable (hhost : host.KeepsNotebook S.Leads)

include hhost

/-- A delivery to the seat is no different from others, as far as records and watchers go. -/
theorem reactsWithin : host.ReactsWithin S.Tends where
  onEvent l event w := (hhost.onEvent l event w).tends
  deliver delivery w := (Tends.serving delivery w).trans (hhost.deliver delivery w).tends
  handOff executor task w := (hhost.handOff executor task w).tends
  instances b service w := (hhost.instances b service w).tends
  enter lease w := (hhost.enter lease w).tends
  leave lease w := (hhost.leave lease w).tends

theorem deliver_leads {delivery : Delivery} (hother : S.hears delivery = false)
    (w : World (Notebook σ)) : S.Leads w (w.after (host.deliver delivery)) :=
  (Still.serving hother w).leads.trans (hhost.deliver delivery w)

theorem refresh_leads {x : Watcher} (hother : ¬S.Owns x) (event : Event)
    (w : World (Notebook σ)) : S.Leads w (w.after (x.refresh host event)) := by
  have hways := x.refresh_cases host event w
  dsimp only at hways
  generalize (w.registry x.registry).discovery = d at hways
  have hentered := hhost.enter (.discovery d) w
  have hasked := hentered.trans (instanceUrls_keepsTo hhost.instances .refl .trans d x.subscribed
    x.services _)
  rcases hways with ⟨-, hfinal⟩ | ⟨cause, -, hfinal⟩ | ⟨urls, -, hfinal⟩
  · rw [hfinal]
    exact hentered
  · rw [hfinal]
    exact (hasked.trans (Still.note _ _).leads).trans (hhost.leave _ _)
  · rw [hfinal]
    refine ((hasked.trans (Still.note _ _).leads).trans (deliver_leads hhost ?_ _)).trans
      (hhost.leave _ _)
    exact decide_eq_false hother

theorem notify_leads (n : Ref .notifier) (event : Event) (w : World (Notebook σ)) :
    S.Leads w (w.after (Notifier.notify host n event)) := by
  refine ⟨Notifier.notify_keepsTo (tends_disregardsLog S) (reactsWithin hhost) n event w,
    fun hbegun hw => ?_⟩
  cases hcontent : event.content with
  | membership service instances =>
    obtain ⟨v, hv, htold⟩ : ∃ v, (v = w ∨ ∃ notice, v = w.note notice) ∧
        Dispatcher.Told host event v ((w.observersAt n service).map Listener.observer)
          (w.after (Notifier.notify host n event)) := Dispatcher.told_notify hcontent n w
    have hheard : S.Leads v (w.after (Notifier.notify host n event)) := by
      refine htold.keepsTo (leads_disregardsLog S) fun l hl u => ?_
      obtain ⟨o, ho, rfl⟩ := List.mem_map.1 hl
      cases o with
      | client l => exact hhost.onEvent l event u
      | watcher x => exact refresh_leads hhost (fun hx => hw.unwatched x hx n service ho) event u
    have hleads : S.Leads w (w.after (Notifier.notify host n event)) := by
      rcases hv with rfl | ⟨notice, rfl⟩
      · exact hheard
      · exact (Still.note w notice).leads.trans hheard
    exact hleads.hushes hbegun hw
  | _ =>
    rw [Notifier.notify, hcontent]
    exact ⟨hw, rfl⟩

theorem listener_leads {l : Listener} (hl : ¬S.IsWatchedBy l) (event : Event)
    (w : World (Notebook σ)) : S.Leads w (w.after (l.react host event)) := by
  cases l with
  | bridge serial n => exact notify_leads hhost n event w
  | observer o =>
    cases o with
    | client l => exact hhost.onEvent l event w
    | watcher x => exact refresh_leads hhost (fun hx => hl ⟨x, hx, rfl⟩) event w

theorem run_leads {task : Task} (htask : S.Spares task.buckets) (w : World (Notebook σ)) :
    S.Leads w (w.after (task.run host)) := by
  refine (Dispatcher.told_run host task w).keepsTo (leads_disregardsLog S) fun l hl v => ?_
  obtain ⟨registration, hregistration, rfl⟩ := List.mem_map.1 hl
  rw [Buckets.matching, inOrder, List.mem_mergeSort] at hregistration
  obtain ⟨bucket, hbucket, hmem⟩ := List.mem_flatMap.1 hregistration
  exact listener_leads hhost (htask bucket (List.mem_of_mem_filter hbucket) registration hmem)
    task.event v

theorem dispatch_leads (id : Ref .dispatcher) (event : Event) (w : World (Notebook σ)) :
    S.Leads w (w.after (Dispatcher.dispatch host id event)) := by
  refine ⟨Dispatcher.dispatch_keepsTo (tends_disregardsLog S) (reactsWithin hhost) id event w,
    fun hbegun hw => ?_⟩
  have hleads : S.Leads w (w.after (Dispatcher.dispatch host id event)) := by
    rw [Dispatcher.dispatch, World.after_bind, World.after_get, World.result_get]
    dsimp only
    cases (w.dispatcher id).executor with
    | direct => exact run_leads hhost (hw.unlisted id) w
    | external executor => exact hhost.handOff executor _ w
  exact hleads.hushes hbegun hw

theorem fire_leads (hook : WatchHook) (service : String) (w : World (Notebook σ)) :
    S.Leads w (w.after (hook.fire host service)) := by
  have hways := hook.fire_cases host service w
  dsimp only at hways
  have hentered := hhost.enter (.backend hook.backend) w
  have hasked := hentered.trans (hhost.instances hook.backend service _)
  rcases hways with ⟨-, hfinal⟩ | ⟨cause, -, hfinal⟩ | ⟨instances, -, hfinal⟩
  · rw [hfinal]
    exact hentered
  · rw [hfinal]
    exact (hasked.trans (Still.note _ _).leads).trans (hhost.leave _ _)
  · rw [hfinal]
    exact ((hasked.trans (Still.note _ _).leads).trans (dispatch_leads hhost _ _ _)).trans
      (hhost.leave _ _)

/-! ## Registrars -/

theorem request_leads (m : Ref .memory) (r : MemorySource.Request) (w : World (Notebook σ)) :
    S.Leads w (w.after (r.perform host m)) := by
  rw [r.after_perform, MemorySource.Request.settle]
  cases (r.edit (w.memory m).table).2 with
  | none => exact .refl w
  | some table =>
    exact ((Still.table m table w).leads.trans (Still.note _ _).leads).trans
      (notify_leads hhost _ _ _)

/-- A call on any registrar. -/
theorem registrar_leads (registrar : Registrar) (c : BackendCommand) (w : World (Notebook σ)) :
    S.Leads w (w.after (registrar.perform host c).run) :=
  registrar.perform_steps .refl .trans (dispatch_leads hhost) (request_leads hhost) hhost.command c w

end Behaving

end ServiceDirectory.Seat
