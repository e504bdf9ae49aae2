import ServiceDirectory.Proofs.Registry.Watching

/-!
# Watching and collecting

A call that subscribes resolves the interface, makes a watcher with a fresh serial number,
puts it in place and computes the first list.  Since the number is fresh, the watcher is
on no list before; so a call that fails can leave things exactly as they were.
-/

namespace ServiceDirectory.Registry

variable {κ : Type}

/-- The watcher that a call makes in a world, for the services it has resolved. -/
def nextWatcher (w : World κ) (id : Ref .registry) (url : Url) (sink : Ref .sink)
    (services : List String) : Watcher :=
  ⟨w.next, id, url, services, sink⟩

/-- The ways through a call that watches and collects: the interface is not resolved, the
watcher is not put in place, the instances are not found, or all is well. -/
theorem watchAndCollect_ways (host : Host κ) (id : Ref .registry) (url : Url)
    (sink : Ref .sink) (w : World κ) :
    let resolve := (serviceNames host id url.serviceInterface).run
    let result := w.result (watchAndCollect host id url sink).run
    let final := w.after (watchAndCollect host id url sink).run
    (∃ cause, w.result resolve = .error cause ∧ result = .error (.failed cause) ∧
      final = w.after resolve) ∨
    ∃ services, w.result resolve = .ok services ∧
      let v := w.after resolve
      let d := (v.registry id).discovery
      let watcher := nextWatcher v id url sink services
      let watch := (watchEach host d watcher [] services).run
      let start : World κ := { v with next := v.next + 1 }
      let watching := start.after watch
      let collect := (instanceUrls host d url services).run
      (∃ stop, start.result watch = .error stop ∧ result = .error stop ∧ final = watching) ∨
      (∃ cause, start.result watch = .ok () ∧ watching.result collect = .error cause ∧
        result = .error (.failed cause) ∧
        final = (watching.after collect).after (unwatch d services watcher)) ∨
      (∃ urls, start.result watch = .ok () ∧ watching.result collect = .ok urls ∧
        result = .ok (watcher, urls) ∧ final = watching.after collect) := by
  intro resolve result final
  cases hnames : w.result resolve with
  | error cause =>
    have hstop : w.result (Act.ofCall (serviceNames host id url.serviceInterface)).run =
        .error (.failed cause) := by
      rw [World.result_ofCall, hnames]
      rfl
    exact Or.inl
      ⟨cause, rfl, World.result_bind_of_error hstop _, World.after_bind_of_error hstop _⟩
  | ok services =>
    refine Or.inr ⟨services, rfl, ?_⟩
    intro v d watcher watch start watching collect
    have hresolved : w.result (Act.ofCall (serviceNames host id url.serviceInterface)).run =
        .ok services := by
      rw [World.result_ofCall, hnames]
      rfl
    let first : Act κ (List Url) :=
      (Act.ofCall (instanceUrls host d url services)).orUndo (unwatch d services watcher)
    let finish : Act κ (Watcher × List Url) := do
      watchEach host d watcher [] services
      let urls ← first
      return (watcher, urls)
    have hresult : result = start.result finish.run := by
      show w.result (watchAndCollect host id url sink).run = _
      rw [watchAndCollect, World.result_bind_of_ok hresolved, World.result_get_bind_except,
        World.result_ofRun_bind]
      rfl
    have hfinal : final = start.after finish.run := by
      show w.after (watchAndCollect host id url sink).run = _
      rw [watchAndCollect, World.after_bind_of_ok hresolved, World.after_get_bind_except,
        World.after_ofRun_bind]
      rfl
    cases hwatch : start.result watch with
    | error stop =>
      refine Or.inl ⟨stop, rfl, ?_, ?_⟩
      · rw [hresult, World.result_bind_of_error hwatch]
      · rw [hfinal, World.after_bind_of_error hwatch]
    | ok _ =>
      refine Or.inr ?_
      have hasked : watching.result (Act.ofCall (instanceUrls host d url services)).run =
          (watching.result collect).mapError Stop.failed := World.result_ofCall _ _
      have hfirst : watching.result first.run =
          (watching.result collect).mapError Stop.failed :=
        (World.result_orUndo _ _ _).trans hasked
      cases hcollect : watching.result collect with
      | error cause =>
        rw [hcollect] at hasked hfirst
        refine Or.inl ⟨cause, rfl, rfl, ?_, ?_⟩
        · rw [hresult, World.result_bind_of_ok hwatch, World.result_bind_of_error hfirst]
        · rw [hfinal, World.after_bind_of_ok hwatch, World.after_bind_of_error hfirst]
          exact World.after_orUndo_of_failed hasked _
      | ok urls =>
        rw [hcollect] at hasked hfirst
        refine Or.inr ⟨urls, rfl, rfl, ?_, ?_⟩
        · rw [hresult, World.result_bind_of_ok hwatch, World.result_bind_of_ok hfirst]
          rfl
        · rw [hfinal, World.after_bind_of_ok hwatch, World.after_bind_of_ok hfirst]
          exact World.after_orUndo_of_ok hasked _

/-- The ways again, without what the collaborators have answered. -/
theorem watchAndCollect_cases (host : Host κ) (id : Ref .registry) (url : Url)
    (sink : Ref .sink) (w : World κ) :
    let resolve := (serviceNames host id url.serviceInterface).run
    let result := w.result (watchAndCollect host id url sink).run
    let final := w.after (watchAndCollect host id url sink).run
    (∃ cause, result = .error (.failed cause) ∧ final = w.after resolve) ∨
    ∃ services,
      let v := w.after resolve
      let d := (v.registry id).discovery
      let watcher := nextWatcher v id url sink services
      let watch := (watchEach host d watcher [] services).run
      let start : World κ := { v with next := v.next + 1 }
      let watching := start.after watch
      let collect := (instanceUrls host d url services).run
      (∃ stop, start.result watch = .error stop ∧ result = .error stop ∧ final = watching) ∨
      (∃ cause, start.result watch = .ok () ∧ result = .error (.failed cause) ∧
        final = (watching.after collect).after (unwatch d services watcher)) ∨
      (∃ urls, start.result watch = .ok () ∧ watching.result collect = .ok urls ∧
        result = .ok (watcher, urls) ∧ final = watching.after collect) := by
  intro resolve result final
  rcases watchAndCollect_ways host id url sink w with
    ⟨cause, -, hresult, hfinal⟩ | ⟨services, -, hways⟩
  · exact Or.inl ⟨cause, hresult, hfinal⟩
  · refine Or.inr ⟨services, ?_⟩
    rcases hways with hstopped | ⟨cause, hwatch, -, hrest⟩ | hdone
    · exact Or.inl hstopped
    · exact Or.inr (Or.inl ⟨cause, hwatch, hrest⟩)
    · exact Or.inr (Or.inr hdone)

section KeepingTo

variable {id : Ref .registry} {counts : Observer → Bool} {host : Host κ} {w : World κ}

theorem Aside.givenOut (w : World κ) :
    Aside id counts w { w with next := w.next + 1 } :=
  ⟨rfl, fun _ _ => rfl, fun _ => rfl, fun _ => rfl, Nat.le_succ _⟩

/-- The serial numbers of watchers stay among those given out. -/
theorem SerialsGivenOut.aside {w w' : World κ} (hgiven : SerialsGivenOut id w)
    (haside : Aside id counts w w')
    (hcounts : ∀ watcher : Watcher, watcher.registry = id → counts (.watcher watcher) = true) :
    SerialsGivenOut id w' := by
  intro n service watcher hregistry hmem
  rw [haside.mem_iff (hcounts watcher hregistry)] at hmem
  exact Nat.lt_of_lt_of_le (hgiven n service watcher hregistry hmem) haside.next_le

/-- A new watcher is on no list. -/
theorem SerialsGivenOut.not_mem_next (hgiven : SerialsGivenOut id w) (url : Url)
    (sink : Ref .sink) (services : List String) (n : Ref .notifier) (service : String) :
    .watcher (nextWatcher w id url sink services) ∉ w.observersAt n service := by
  intro hmem
  exact Nat.lt_irrefl _ (hgiven n service _ rfl hmem)

/-- A call that fails has changed nothing that counts. -/
theorem watchAndCollect_failed (hhost : host.KeepsTo (Aside id counts))
    (hcounts : ∀ watcher : Watcher, watcher.registry = id → counts (.watcher watcher) = true)
    (hgiven : SerialsGivenOut id w) {url : Url} {sink : Ref .sink} {cause : Failure}
    (hfailed : w.result (watchAndCollect host id url sink).run = .error (.failed cause)) :
    Aside id counts w (w.after (watchAndCollect host id url sink).run) := by
  have hresolve := serviceNames_keepsTo hhost.lookup id url.serviceInterface w
  rcases watchAndCollect_cases host id url sink w with ⟨_, -, hfinal⟩ | ⟨services, hways⟩
  · rw [hfinal]
    exact hresolve
  have habsent := (hgiven.aside hresolve hcounts).not_mem_next url sink services
  dsimp only at hways
  generalize w.after (serviceNames host id url.serviceInterface).run = v at *
  generalize hd : (v.registry id).discovery = d at hways
  have hcount := hcounts (nextWatcher v id url sink services) rfl
  have hwatched := watchEach_varies hhost hcount d [] services { v with next := v.next + 1 }
  refine (hresolve.trans (Aside.givenOut v)).trans ?_
  rcases hways with ⟨stop, hwatch, hresult, hfinal⟩ | ⟨_, -, -, hfinal⟩ | ⟨urls, -, -, hresult, -⟩
  · obtain rfl : stop = .failed cause := by
      rw [hresult] at hfailed
      injection hfailed
    rw [hfinal]
    refine hwatched.aside_of_absent habsent ?_
    exact watchEach_failed hhost hcount (fun n service hmem => absurd hmem (habsent n service))
      hwatch
  · have hcollected := hwatched.trans (Varies.of_aside
      (instanceUrls_keepsTo hhost.instances Aside.refl Aside.trans d url services _) hcount)
    rw [hfinal]
    refine (hcollected.trans (Varies.remove (unwatch_removal d services _ _)
      fun o service ho => (of_decide_eq_true ho).1)).aside_of_absent habsent ?_
    refine not_mem_after_unwatch fun n service hmem => ?_
    rw [hcollected.notifiers_eq]
    rcases hcollected.only n service hmem with hbefore | hplace
    · exact absurd hbefore (habsent n service)
    · exact hplace
  · rw [hresult] at hfailed
    cases hfailed

/-- The call has made a watcher for the services that the interface stands for.  It turns up on
their lists at the leaves only, and nothing else that counts has changed. -/
structure Made (host : Host κ) (id : Ref .registry) (counts : Observer → Bool) (url : Url)
    (sink : Ref .sink) (watcher : Watcher) (w w' : World κ) : Prop where
  registry : watcher.registry = id
  subscribed : watcher.subscribed = url
  sink : watcher.sink = sink
  services : w.result (serviceNames host id url.serviceInterface).run = .ok watcher.services
  fresh : w.next ≤ watcher.serial
  given : watcher.serial < w'.next
  varies : Varies id counts (.watcher watcher)
    (fun n service => n ∈ (w.registry id).discovery.notifiers w ∧ service ∈ watcher.services)
    w w'

/-- The watcher of a call is in place: it is on the list of each service at each leaf. -/
structure InPlace (host : Host κ) (id : Ref .registry) (counts : Observer → Bool) (url : Url)
    (sink : Ref .sink) (watcher : Watcher) (w w' : World κ) : Prop
    extends Made host id counts url sink watcher w w' where
  everywhere : ∀ n ∈ (w.registry id).discovery.notifiers w, ∀ service ∈ watcher.services,
    .watcher watcher ∈ w'.observersAt n service

section Making

variable {url : Url} {sink : Ref .sink} {watcher : Watcher} {v w' : World κ}

theorem Made.aside (h : Made host id counts url sink watcher w v) (haside : Aside id counts v w')
    (hcount : counts (.watcher watcher) = true) : Made host id counts url sink watcher w w' where
  registry := h.registry
  subscribed := h.subscribed
  sink := h.sink
  services := h.services
  fresh := h.fresh
  given := Nat.lt_of_lt_of_le h.given haside.next_le
  varies := h.varies.trans (Varies.of_aside haside hcount)

theorem InPlace.aside (h : InPlace host id counts url sink watcher w v)
    (haside : Aside id counts v w') (hcount : counts (.watcher watcher) = true) :
    InPlace host id counts url sink watcher w w' where
  toMade := h.toMade.aside haside hcount
  everywhere n hn service hservice :=
    (haside.mem_iff hcount n service).2 (h.everywhere n hn service hservice)

end Making

/-- However the work on the lists ends, it is about a watcher that the call has made. -/
theorem made_of_watchEach (hhost : host.KeepsTo (Aside id counts))
    (hcounts : ∀ watcher : Watcher, watcher.registry = id → counts (.watcher watcher) = true)
    {url : Url} (sink : Ref .sink) {services : List String}
    (hresolved : w.result (serviceNames host id url.serviceInterface).run = .ok services) :
    let v := w.after (serviceNames host id url.serviceInterface).run
    let d := (v.registry id).discovery
    let watcher := nextWatcher v id url sink services
    let start : World κ := { v with next := v.next + 1 }
    d.notifiers start = (w.registry id).discovery.notifiers w ∧
      Made host id counts url sink watcher w
        (start.after (watchEach host d watcher [] services).run) := by
  intro v d watcher start
  have hresolve : Aside id counts w v :=
    serviceNames_keepsTo hhost.lookup id url.serviceInterface w
  have hcount := hcounts watcher rfl
  have hwatched := watchEach_varies hhost hcount d [] services start
  have hstart : Aside id counts w start := hresolve.trans (Aside.givenOut v)
  have hnotifiers : d.notifiers start = (w.registry id).discovery.notifiers w := by
    rw [hstart.notifiers_eq, ← hresolve.registry]
  refine ⟨hnotifiers, rfl, rfl, rfl, hresolved, hresolve.next_le, ?_, ?_⟩
  · exact Nat.lt_of_lt_of_le (Nat.lt_succ_self v.next) hwatched.rest.next_le
  · rw [← hnotifiers]
    exact (Varies.of_aside hstart hcount).trans hwatched

theorem watchAndCollect_ok (hhost : host.KeepsTo (Aside id counts))
    (hcounts : ∀ watcher : Watcher, watcher.registry = id → counts (.watcher watcher) = true)
    {url : Url} {sink : Ref .sink} {watcher : Watcher} {urls : List Url}
    (hok : w.result (watchAndCollect host id url sink).run = .ok (watcher, urls)) :
    InPlace host id counts url sink watcher w
      (w.after (watchAndCollect host id url sink).run) := by
  rcases watchAndCollect_ways host id url sink w with
    ⟨_, -, hresult, -⟩ | ⟨services, hresolved, hways⟩
  · rw [hresult] at hok
    cases hok
  obtain ⟨hnotifiers, hmade⟩ := made_of_watchEach hhost hcounts sink hresolved
  rcases hways with
    ⟨stop, -, hresult, -⟩ | ⟨_, -, -, hresult, -⟩ | ⟨urls', hwatch, -, hresult, hfinal⟩
  · rw [hresult] at hok
    cases hok
  · rw [hresult] at hok
    cases hok
  · rw [hresult] at hok
    injection hok with hpair
    obtain rfl := congrArg Prod.fst hpair
    have hcount := hcounts _ hmade.registry
    rw [hfinal]
    refine InPlace.aside ⟨hmade, ?_⟩ (instanceUrls_keepsTo hhost.instances Aside.refl Aside.trans
      _ url services _) hcount
    rw [← hnotifiers]
    exact (watchEach_ok hhost hcount hwatch).2

/-- A call that panics leaves its watcher on a list.  The panic is a backend's. -/
theorem watchAndCollect_panicked (hhost : host.KeepsTo (Aside id counts))
    (hcounts : ∀ watcher : Watcher, watcher.registry = id → counts (.watcher watcher) = true)
    {url : Url} {sink : Ref .sink} {payload : Payload}
    (hpanicked : w.result (watchAndCollect host id url sink).run = .error (.panicked payload)) :
    (∃ watcher, Made host id counts url sink watcher w
        (w.after (watchAndCollect host id url sink).run) ∧
      ∃ n ∈ (w.registry id).discovery.notifiers w, ∃ service ∈ watcher.services,
        .watcher watcher ∈
          (w.after (watchAndCollect host id url sink).run).observersAt n service) ∧
      host.WatchPanics payload := by
  rcases watchAndCollect_ways host id url sink w with
    ⟨_, -, hresult, -⟩ | ⟨services, hresolved, hways⟩
  · rw [hresult] at hpanicked
    cases hpanicked
  obtain ⟨hnotifiers, hmade⟩ := made_of_watchEach hhost hcounts sink hresolved
  rcases hways with
    ⟨stop, hwatch, hresult, hfinal⟩ | ⟨_, -, -, hresult, -⟩ | ⟨_, -, -, hresult, -⟩
  · obtain rfl : stop = .panicked payload := by
      rw [hresult] at hpanicked
      injection hpanicked
    obtain ⟨hplaced, hbackend⟩ := watchEach_panicked hhost (hcounts _ hmade.registry) hwatch
    rw [hnotifiers] at hplaced
    rw [hfinal]
    exact ⟨⟨_, hmade, hplaced⟩, hbackend⟩
  · rw [hresult] at hpanicked
    cases hpanicked
  · rw [hresult] at hpanicked
    cases hpanicked

end KeepingTo

end ServiceDirectory.Registry
