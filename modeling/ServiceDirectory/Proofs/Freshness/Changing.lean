import ServiceDirectory.Proofs.Freshness.Reporting
import ServiceDirectory.Proofs.Registrar.Performing

/-!
# Changes of instances

A change of the instances of a service unsettles the watchers of that service, and so does a
task that is taken up, since it no longer waits.  In each case the watchers are told before
the call returns, so the step as a whole leads from settled watchers to settled watchers.
-/

namespace ServiceDirectory.Site

variable {σ : Type} {S : Site} {w v : World (Outside σ)}

theorem urls_congr {services : List String}
    (h : ∀ service ∈ services, S.listed v service = S.listed w service) (url : Url) :
    S.urls v url services = S.urls w url services := by
  have hflat : ∀ l : List String, (∀ service ∈ l, S.listed v service = S.listed w service) →
      l.flatMap (fun service => (S.listed v service).map (instanceUrl url)) =
        l.flatMap fun service => (S.listed w service).map (instanceUrl url) := by
    intro l hl
    induction l with
    | nil => rfl
    | cons service rest ih =>
      rw [List.flatMap_cons, List.flatMap_cons, hl service List.mem_cons_self,
        ih fun service hservice => hl service (List.mem_cons_of_mem _ hservice)]
  exact hflat services h

/-- A step that changes neither records nor lists of observers, nor the wiring of the source,
unsettles no more watchers than those of whom it is said. -/
theorem Sound.evolves_unsettling {told : Watcher → Prop} (hsound : S.Sound w)
    (hregistry : v.registry S.registry = w.registry S.registry)
    (hobservers : ∀ service, v.observersAt S.notifier service = w.observersAt S.notifier service)
    (hsource : ∀ b, v.source b = w.source b) (hnext : v.next = w.next)
    (hcurrent : ∀ watcher, S.Settled w watcher → ¬told watcher →
      v.latest? watcher = some (S.urls v watcher.subscribed watcher.services) ∨
        ∃ task ∈ v.client.pending, ∃ service ∈ watcher.services, S.TellsOf task service) :
    S.Evolves (fun _ => False) (fun watcher => S.Settled w watcher ∧ ¬told watcher) w v := by
  have hrecorded : ∀ watcher, S.Recorded v watcher ↔ S.Recorded w watcher :=
    recorded_congr hregistry
  have hsame : ∀ watcher, S.Same w v watcher := by
    intro watcher
    refine ⟨hrecorded watcher, fun service => ?_⟩
    rw [hobservers]
  have hgrows : S.Grows w v := by
    refine ⟨Nat.le_of_eq hnext.symm, ?_, ?_⟩
    · intro b _
      rw [hsource]
    · intro b _ service hservice
      rwa [hsource]
  refine hsound.evolves hgrows (fun watcher => (hrecorded watcher).1)
    (fun watcher _ _ => Or.inr (hsame watcher)) ?_
  rintro watcher - - ⟨hsettled, htold⟩
  exact Or.inr ⟨hsettled.ready.grows hgrows (hsame watcher).told, hcurrent watcher hsettled htold⟩

/-! ## Sources in memory -/

/-- The instances of a service are put into the table of a source. -/
def put (m : Ref .memory) (service : String) (instances : List Instance)
    (w : World (Outside σ)) : World (Outside σ) :=
  w.setMemory m { w.memory m with table := (w.memory m).table.put service instances }

theorem memory_put (m m' : Ref .memory) (service : String) (instances : List Instance) :
    (put m service instances w).memory m' = if m = m' then
      { w.memory m with table := (w.memory m).table.put service instances }
    else w.memory m' := by
  simp [put]

theorem Sound.put (hsound : S.Sound w) (m : Ref .memory) (service : String)
    (instances : List Instance) : S.Sound (put m service instances w) := by
  have hnotifier := hsound.notifier
  refine ⟨⟨hsound.discovery, ?_, hsound.reached, hsound.accepted⟩, hsound.filed, hsound.given⟩
  cases hd : S.discovery with
  | memory m' =>
    rw [hd] at hnotifier
    rw [← hnotifier, Discovery.notifier?, Discovery.notifier?, memory_put]
    split_ifs with hm
    · rw [hm]
    · rfl
  | backed b =>
    rw [hd] at hnotifier
    exact hnotifier
  | composite c sources =>
    rw [hd] at hnotifier
    cases hnotifier

/-- What the source of a site lists for a service is as before, unless it is the source of
the change and the service the one that has changed. -/
theorem Sound.listed_put (hsound : S.Sound w) {m : Ref .memory} {service service' : String}
    (instances : List Instance)
    (hother : (w.memory m).notifier = S.notifier → service ≠ service') :
    S.listed (Site.put m service instances w) service' = S.listed w service' := by
  have hnotifier := hsound.notifier
  unfold listed
  split
  · rename_i m' hd
    rw [memory_put]
    split_ifs with hm
    · subst hm
      rw [hd] at hnotifier
      simp [hother (Option.some.inj hnotifier)]
    · rfl
  · rfl
  · rfl

section Behaving

variable {host : Host (Outside σ)} (hhost : S.Behaves S.Leads host)

include hhost

theorem publish_leads (m : Ref .memory) (service : String) (instances : List Instance)
    (w : World (Outside σ)) :
    S.Leads w (w.after (MemorySource.publish host m
      ((w.memory m).table.put service instances) service)) := by
  let stored := (w.memory m).table.put service instances
  let event : Event := .raise (w.memory m).name (.membership service (stored.get service))
  let noted := (put m service instances w).note
    (.instancesChanged (w.memory m).name service (stored.get service).length)
  have hfinal : w.after (MemorySource.publish host m stored service) =
      noted.after (Notifier.notify host (w.memory m).notifier event) := rfl
  have hnotified := notify_tells hhost (w.memory m).notifier event noted
  rw [hfinal]
  refine Leads.of_unsettling (v := put m service instances w) ?_ ?_
    ((Still.note _ _).leads.trans_tells hnotified)
  · intro hsound
    exact hsound.put m service instances
  · intro hsound
    refine hsound.evolves_unsettling rfl (fun _ => rfl) (fun _ => rfl) rfl ?_
    intro watcher hsettled htold
    have hurls : S.urls (put m service instances w) watcher.subscribed watcher.services =
        S.urls w watcher.subscribed watcher.services := by
      refine urls_congr (fun service' hservice' => hsound.listed_put instances ?_) _
      rintro hnotifier rfl
      exact htold ⟨hnotifier, service, hservice', _, rfl⟩
    rw [hurls]
    exact hsettled.current

theorem add_leads (m : Ref .memory) (x : Instance) (w : World (Outside σ)) :
    S.Leads w (w.after (MemorySource.add host m x)) :=
  publish_leads hhost m x.service (replaceOrAppend ((w.memory m).table.get x.service) x).2 w

theorem update_leads (m : Ref .memory) (x : Instance) (w : World (Outside σ)) :
    S.Leads w (w.after (MemorySource.update host m x)) := by
  rw [MemorySource.update, World.after_bind, World.after_get, World.result_get,
    InstanceTable.update]
  cases replaceFirst ((w.memory m).table.get x.service) x with
  | none => exact Leads.refl w
  | some instances => exact publish_leads hhost m x.service instances w

theorem remove_leads (m : Ref .memory) (x : Instance) (w : World (Outside σ)) :
    S.Leads w (w.after (MemorySource.remove host m x)) := by
  rw [MemorySource.remove, World.after_bind, World.after_get, World.result_get,
    InstanceTable.remove]
  split_ifs with hlength
  · exact Leads.refl w
  · exact publish_leads hhost m x.service _ w

/-- A call on any registrar. -/
theorem registrar_leads (registrar : Registrar) (c : BackendCommand) (w : World (Outside σ)) :
    S.Leads w (w.after (registrar.perform host c).run) := by
  refine registrar.perform_steps Leads.refl Leads.trans
    (fun d event v => (dispatch_tells hhost d event v).leads) (fun m request v => ?_) hhost.command
    c w
  cases request with
  | add x => exact add_leads hhost m x v
  | update x => exact update_leads hhost m x v
  | remove x => exact remove_leads hhost m x v

/-! ## Backends and executors -/

/-- Among the hooks that are called is that of the source, when it watches the service. -/
theorem fireEach_tells (b : Ref .backend) (service : String) (hooks : List WatchHook)
    (w : World (Outside σ)) (hhooks : ∀ hook ∈ w.client.accepted b service, hook ∈ hooks) :
    S.Tells (fun watcher => service ∈ watcher.services ∧
      ∃ id, S.discovery = .backed id ∧ (w.source id).backend = b) w
      (w.after (hooks.forM fun hook => hook.fire host service)) := by
  have heach : ∀ (l : List WatchHook) (v : World (Outside σ)),
      S.Leads v (v.after (l.forM fun hook => hook.fire host service)) := by
    intro l v
    have hone : ∀ hook ∈ l, ∀ u, S.Tells (fun _ => False) u (u.after (hook.fire host service)) :=
      fun hook _ u => (fire_tells hhost hook service u).leads
    exact (Leads.forM l hone v).leads
  by_cases hwatched : ∃ id, S.discovery = .backed id ∧ (w.source id).backend = b ∧
      (w.source id).hook ∈ hooks
  · obtain ⟨id, hd, hbackend, hhook⟩ := hwatched
    obtain ⟨before, later, rfl⟩ := List.append_of_mem hhook
    have hbefore := heach before w
    generalize hv : w.after (before.forM fun hook => hook.fire host service) = v at hbefore
    have hfired := fire_tells hhost (w.source id).hook service v
    have hall := hbefore.trans_tells (hfired.trans_leads (heach later _))
    have hfinal : w.after ((before ++ (w.source id).hook :: later).forM
        fun hook => hook.fire host service) =
        (v.after ((w.source id).hook.fire host service)).after
          (later.forM fun hook => hook.fire host service) := by
      rw [World.after_forM_append, hv, World.after_forM_cons]
    rw [hfinal]
    refine hall.mono ?_
    rintro hsound watcher - - ⟨hservice, -⟩
    exact ⟨hservice, id, hd, ((hbefore hsound).2.grows.hook id hd).symm⟩
  · refine (heach hooks w).mono ?_
    rintro hsound watcher - hready ⟨hservice, id, hd, rfl⟩
    have hreported := (hready service hservice).reported id hd
    exact hwatched ⟨id, hd, rfl, hhooks _ (hsound.accepted id hd service hreported)⟩

theorem change_leads (b : Ref .backend) (service : String) (instances : List Instance)
    (hooks : List WatchHook) (w : World (Outside σ))
    (hhooks : ∀ hook ∈ w.client.accepted b service, hook ∈ hooks) :
    S.Leads w
      ((w.listing b service instances).after (hooks.forM fun hook => hook.fire host service)) := by
  refine Leads.of_unsettling (v := w.listing b service instances) ?_ ?_
    (fireEach_tells hhost b service hooks _ hhooks)
  · intro hsound
    exact hsound.withClient rfl
  · intro hsound
    refine hsound.evolves_unsettling rfl (fun _ => rfl) (fun _ => rfl) rfl ?_
    intro watcher hsettled htold
    have hurls : S.urls (w.listing b service instances) watcher.subscribed watcher.services =
        S.urls w watcher.subscribed watcher.services := by
      refine urls_congr (fun service' hservice' => ?_) _
      unfold listed
      split
      · rfl
      · rename_i id hd
        have hother : ¬((w.source id).backend = b ∧ service' = service) := by
          rintro ⟨hbackend, rfl⟩
          exact htold ⟨hservice', id, hd, hbackend⟩
        exact if_neg hother
      · rfl
    rw [hurls]
    exact hsettled.current

theorem runTask_leads (before later : List Task) (task : Task) (w : World (Outside σ))
    (hpending : w.client.pending = before ++ task :: later) :
    S.Leads w ((w.waiting (before ++ later)).after (task.run host)) := by
  refine Leads.of_unsettling (v := w.waiting (before ++ later)) ?_ ?_ (run_tells hhost task _)
  · intro hsound
    exact hsound.withClient rfl
  · intro hsound
    refine hsound.evolves_unsettling rfl (fun _ => rfl) (fun _ => rfl) rfl ?_
    intro watcher hsettled htold
    rcases hsettled.current with hlatest | ⟨task', htask', htells⟩
    · exact Or.inl hlatest
    · have hother : task' ≠ task := by
        rintro rfl
        exact htold htells
      rw [hpending] at htask'
      have hstill : task' ∈ before ++ later := by
        rcases List.mem_append.1 htask' with hmem | hmem
        · exact List.mem_append_left _ hmem
        · exact List.mem_append_right _ ((List.mem_cons.1 hmem).resolve_left hother)
      exact Or.inr ⟨task', hstill, htells⟩

end Behaving

end ServiceDirectory.Site
