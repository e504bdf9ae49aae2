import ServiceDirectory.Proofs.Registry.Asking
import ServiceDirectory.Registry.Subscribe

/-!
# Putting the watcher of a subscription in place

A call that subscribes makes one watcher and adds it to the services of the interface,
one after the other.  When an addition or the first query fails, the watcher is taken
off the lists it may be on by then, those of the failing service included.
-/

namespace ServiceDirectory.Registry

variable {κ : Type}

theorem unwatch_removal (d : Discovery) (services : List String) (watcher : Watcher)
    (w : World κ) :
    Removal (d.notifiers w) (fun o service => o = .watcher watcher ∧ service ∈ services) w
      (w.after (unwatch d services watcher)) := by
  induction services generalizing w with
  | nil => exact (Removal.refl _ w).congr (by simp)
  | cons service rest ih =>
    have hfirst := d.removeObserver_removal service (.watcher watcher) w
    have hrest := ih (w.after (d.removeObserver service (.watcher watcher)))
    rw [hfirst.notifiers_eq] at hrest
    refine (hfirst.trans hrest).congr fun o service' => ?_
    by_cases ho : o = .watcher watcher <;> by_cases hs : service' = service <;> simp [ho, hs]

/-- A watcher that is on no list but those it is taken off is on none afterwards. -/
theorem not_mem_after_unwatch {d : Discovery} {services : List String} {watcher : Watcher}
    {w : World κ}
    (honly : ∀ n service, .watcher watcher ∈ w.observersAt n service →
      n ∈ d.notifiers w ∧ service ∈ services)
    (n : Ref .notifier) (service : String) :
    .watcher watcher ∉ (w.after (unwatch d services watcher)).observersAt n service := by
  intro hmem
  rw [(unwatch_removal d services watcher w).observers] at hmem
  split at hmem
  · obtain ⟨hbefore, hstays⟩ := List.mem_filter.1 hmem
    have hservice := (honly n service hbefore).2
    simp [hservice] at hstays
  · rename_i hn
    exact hn (honly n service hmem).1

/-- Every watcher of a registry has a serial number that has been given out. -/
def SerialsGivenOut (id : Ref .registry) (w : World κ) : Prop :=
  ∀ n service, ∀ watcher : Watcher, watcher.registry = id →
    .watcher watcher ∈ w.observersAt n service → watcher.serial < w.next

theorem SerialsGivenOut.removal {id : Ref .registry} {ns : List (Ref .notifier)}
    {gone : Observer → String → Bool} {w w' : World κ} (hgiven : SerialsGivenOut id w)
    (h : Removal ns gone w w') : SerialsGivenOut id w' := by
  intro n service watcher hregistry hmem
  have hbefore : .watcher watcher ∈ w.observersAt n service := by
    rw [h.observers] at hmem
    split at hmem
    · exact (List.mem_filter.1 hmem).1
    · exact hmem
  rw [h.elsewhere]
  exact hgiven n service watcher hregistry hbefore

/-- What may come of adding a watcher to the next service: the work goes on, or the
addition fails and the watcher is taken off what has been tried, or it panics. -/
theorem watchEach_cases (host : Host κ) (d : Discovery) (watcher : Watcher)
    (tried : List String) (service : String) (rest : List String) (w : World κ) :
    let add := (d.addObserver host service (.watcher watcher)).run
    let result := w.result (watchEach host d watcher tried (service :: rest)).run
    let final := w.after (watchEach host d watcher tried (service :: rest)).run
    let goOn := (watchEach host d watcher (tried ++ [service]) rest).run
    (w.result add = .ok () ∧ result = (w.after add).result goOn ∧
      final = (w.after add).after goOn) ∨
    (∃ cause, w.result add = .error (.failed cause) ∧ result = .error (.failed cause) ∧
      final = (w.after add).after (unwatch d (tried ++ [service]) watcher)) ∨
    (∃ payload, w.result add = .error (.panicked payload) ∧
      result = .error (.panicked payload) ∧ final = w.after add) := by
  intro add result final goOn
  let undo : Run κ Unit := unwatch d (tried ++ [service]) watcher
  let guarded : Act κ Unit := (d.addObserver host service (.watcher watcher)).orUndo undo
  have hguarded : w.result guarded.run = w.result add := World.result_orUndo _ _ _
  have hresult : result = w.result (guarded >>= fun _ =>
    watchEach host d watcher (tried ++ [service]) rest).run := rfl
  have hfinal : final = w.after (guarded >>= fun _ =>
    watchEach host d watcher (tried ++ [service]) rest).run := rfl
  rcases hadd : w.result add with (cause | payload) | _
  · refine Or.inr (Or.inl ⟨cause, rfl, ?_, ?_⟩)
    · rw [hresult, World.result_bind_of_error (hguarded.trans hadd)]
    · rw [hfinal, World.after_bind_of_error (hguarded.trans hadd)]
      exact World.after_orUndo_of_failed hadd undo
  · refine Or.inr (Or.inr ⟨payload, rfl, ?_, ?_⟩)
    · rw [hresult, World.result_bind_of_error (hguarded.trans hadd)]
    · rw [hfinal, World.after_bind_of_error (hguarded.trans hadd)]
      exact World.after_orUndo_of_panicked hadd undo
  · have hafter : w.after guarded.run = w.after add := World.after_orUndo_of_ok hadd undo
    refine Or.inl ⟨rfl, ?_, ?_⟩
    · rw [hresult, World.result_bind_of_ok (hguarded.trans hadd), hafter]
    · rw [hfinal, World.after_bind_of_ok (hguarded.trans hadd), hafter]

/-- When an addition puts the watcher at its own places only, then after a failure the watcher is
on no list at all. -/
theorem not_mem_of_watchEach_failed {host : Host κ} {d : Discovery} {watcher : Watcher}
    {P : World κ → Prop}
    (hadd : ∀ service w, P w →
      let v := w.after (d.addObserver host service (.watcher watcher)).run
      P v ∧ d.notifiers v = d.notifiers w ∧ ∀ n service', .watcher watcher ∈
        v.observersAt n service' → .watcher watcher ∈ w.observersAt n service' ∨
          n ∈ d.notifiers w ∧ service' = service)
    {tried services : List String} {w : World κ} (hw : P w)
    (honly : ∀ n service, .watcher watcher ∈ w.observersAt n service →
      n ∈ d.notifiers w ∧ service ∈ tried)
    {cause : Failure}
    (hfailed : w.result (watchEach host d watcher tried services).run = .error (.failed cause))
    (n : Ref .notifier) (service : String) :
    .watcher watcher ∉
      (w.after (watchEach host d watcher tried services).run).observersAt n service := by
  induction services generalizing tried w with
  | nil => cases hfailed
  | cons next rest ih =>
    obtain ⟨hv, hnotifiers, hplaced⟩ := hadd next w hw
    have honlyAdd : ∀ n service, .watcher watcher ∈
        (w.after (d.addObserver host next (.watcher watcher)).run).observersAt n service →
        n ∈ d.notifiers (w.after (d.addObserver host next (.watcher watcher)).run) ∧
          service ∈ tried ++ [next] := by
      intro n service hmem
      rw [hnotifiers, List.mem_append, List.mem_singleton]
      rcases hplaced n service hmem with hbefore | hplace
      · exact ⟨(honly n service hbefore).1, Or.inl (honly n service hbefore).2⟩
      · exact ⟨hplace.1, Or.inr hplace.2⟩
    rcases watchEach_cases host d watcher tried next rest w with
      ⟨-, hresult, hfinal⟩ | ⟨cause', -, -, hfinal⟩ | ⟨payload, -, hresult, -⟩
    · rw [hfinal]
      exact ih hv honlyAdd (hresult ▸ hfailed)
    · rw [hfinal]
      exact not_mem_after_unwatch honlyAdd n service
    · rw [hresult] at hfailed
      cases hfailed

section KeepingTo

variable {id : Ref .registry} {counts : Observer → Bool} {host : Host κ} {watcher : Watcher}

/-- Whatever comes of it, only the places of the watcher itself have changed. -/
theorem watchEach_varies (hhost : host.KeepsTo (Aside id counts))
    (hcounts : counts (.watcher watcher) = true) (d : Discovery)
    (tried services : List String) (w : World κ) :
    Varies id counts (.watcher watcher)
      (fun n service => n ∈ d.notifiers w ∧ service ∈ services) w
      (w.after (watchEach host d watcher tried services).run) := by
  induction services generalizing tried w with
  | nil => exact Varies.refl w
  | cons service rest ih =>
    have hadd : Varies id counts (.watcher watcher)
        (fun n service' => n ∈ d.notifiers w ∧ service' ∈ service :: rest) w
        (w.after (d.addObserver host service (.watcher watcher)).run) :=
      d.addObserver_varies hhost hcounts service w (by simp)
    rcases watchEach_cases host d watcher tried service rest w with
      ⟨-, -, hfinal⟩ | ⟨cause, -, -, hfinal⟩ | ⟨payload, -, -, hfinal⟩
    · rw [hfinal]
      refine hadd.trans ((ih (tried ++ [service]) _).mono fun n service' hplace => ?_)
      rw [hadd.notifiers_eq] at hplace
      exact ⟨hplace.1, List.mem_cons_of_mem service hplace.2⟩
    · rw [hfinal]
      refine hadd.trans (Varies.remove (unwatch_removal d _ watcher _) fun o service' ho => ?_)
      exact (of_decide_eq_true ho).1
    · rw [hfinal]
      exact hadd

/-- After a failure the watcher is on no list at all. -/
theorem watchEach_failed (hhost : host.KeepsTo (Aside id counts))
    (hcounts : counts (.watcher watcher) = true) {d : Discovery}
    {tried services : List String} {w : World κ}
    (honly : ∀ n service, .watcher watcher ∈ w.observersAt n service →
      n ∈ d.notifiers w ∧ service ∈ tried)
    {cause : Failure}
    (hfailed : w.result (watchEach host d watcher tried services).run = .error (.failed cause))
    (n : Ref .notifier) (service : String) :
    .watcher watcher ∉
      (w.after (watchEach host d watcher tried services).run).observersAt n service := by
  refine not_mem_of_watchEach_failed (P := fun _ => True) (fun next v _ => ?_) trivial honly
    hfailed n service
  have hadd : Varies id counts (.watcher watcher)
      (fun n service => n ∈ d.notifiers v ∧ service ∈ [next]) v
      (v.after (d.addObserver host next (.watcher watcher)).run) :=
    d.addObserver_varies hhost hcounts next v (by simp)
  refine ⟨trivial, hadd.notifiers_eq d, fun n service hmem => ?_⟩
  exact (hadd.only n service hmem).imp_right (And.imp_right List.mem_singleton.1)

/-- After success the watcher is on the list of each service at each leaf. -/
theorem watchEach_ok (hhost : host.KeepsTo (Aside id counts))
    (hcounts : counts (.watcher watcher) = true) {d : Discovery}
    {tried services : List String} {w : World κ}
    (hok : w.result (watchEach host d watcher tried services).run = .ok ()) :
    (∀ n service, .watcher watcher ∈ w.observersAt n service →
      .watcher watcher ∈
        (w.after (watchEach host d watcher tried services).run).observersAt n service) ∧
    ∀ n ∈ d.notifiers w, ∀ service ∈ services,
      .watcher watcher ∈
        (w.after (watchEach host d watcher tried services).run).observersAt n service := by
  induction services generalizing tried w with
  | nil => exact ⟨fun _ _ hmem => hmem, by simp⟩
  | cons next rest ih =>
    rcases watchEach_cases host d watcher tried next rest w with
      ⟨hadded, hresult, hfinal⟩ | ⟨cause, -, hresult, -⟩ | ⟨payload, -, hresult, -⟩
    · obtain ⟨haddKeeps, haddNew⟩ := d.addObserver_ok hhost hcounts next w hadded
      have hadd : Varies id counts (.watcher watcher) (fun _ _ => True) w
          (w.after (d.addObserver host next (.watcher watcher)).run) :=
        d.addObserver_varies hhost hcounts next w fun _ _ => trivial
      obtain ⟨hrestKeeps, hrestNew⟩ := ih (hresult ▸ hok)
      rw [hfinal]
      refine ⟨fun n service hmem => hrestKeeps n service (haddKeeps n service hmem), ?_⟩
      intro n hn service hservice
      rcases List.mem_cons.1 hservice with rfl | hservice
      · exact hrestKeeps n service (haddNew n hn)
      · exact hrestNew n (by rwa [hadd.notifiers_eq]) service hservice
    · rw [hresult] at hok
      cases hok
    · rw [hresult] at hok
      cases hok

/-- After a panic, which is a backend's, the watcher is still on a list. -/
theorem watchEach_panicked (hhost : host.KeepsTo (Aside id counts))
    (hcounts : counts (.watcher watcher) = true) {d : Discovery}
    {tried services : List String} {w : World κ} {payload : Payload}
    (hpanicked : w.result (watchEach host d watcher tried services).run =
      .error (.panicked payload)) :
    (∃ n ∈ d.notifiers w, ∃ service ∈ services, .watcher watcher ∈
      (w.after (watchEach host d watcher tried services).run).observersAt n service) ∧
      host.WatchPanics payload := by
  induction services generalizing tried w with
  | nil => cases hpanicked
  | cons next rest ih =>
    rcases watchEach_cases host d watcher tried next rest w with
      ⟨-, hresult, hfinal⟩ | ⟨cause, -, hresult, -⟩ | ⟨payload', hadd, hresult, hfinal⟩
    · have hadd : Varies id counts (.watcher watcher) (fun _ _ => True) w
          (w.after (d.addObserver host next (.watcher watcher)).run) :=
        d.addObserver_varies hhost hcounts next w fun _ _ => trivial
      obtain ⟨⟨n, hn, service, hservice, hmem⟩, hwatch⟩ := ih (hresult ▸ hpanicked)
      rw [hadd.notifiers_eq] at hn
      rw [hfinal]
      exact ⟨⟨n, hn, service, List.mem_cons_of_mem _ hservice, hmem⟩, hwatch⟩
    · rw [hresult] at hpanicked
      cases hpanicked
    · obtain rfl : payload' = payload := by
        rw [hresult] at hpanicked
        injection hpanicked with hstop
        injection hstop
      obtain ⟨⟨n, hn, hmem⟩, hwatch⟩ := d.addObserver_panicked hhost hcounts next w hadd
      rw [hfinal]
      exact ⟨⟨n, hn, next, by simp, hmem⟩, hwatch⟩

end KeepingTo

end ServiceDirectory.Registry
