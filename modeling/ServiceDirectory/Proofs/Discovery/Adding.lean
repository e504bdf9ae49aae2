import ServiceDirectory.Proofs.Discovery.Tree

/-!
# Adding an observer to a tree of sources

While an observer is added, backends are asked for watches, and nothing is known of what
they do meanwhile except that they stay off what the registry relies on.  `Aside` says
what that is.  It speaks of the observers that count for a purpose, so that it can be
read for the watchers of one registry as well as for all observers.

An addition that fails leaves the observer on some lists and not on others.  `Varies`
therefore follows one observer: everything but its place on the lists stays aside, and
the lists on which it may turn up are known.
-/

namespace ServiceDirectory

variable {κ : Type}

/-- Between `w` and `w'` nothing has changed on which a registry relies: its own record,
the observers that count, the wiring of the sources, and that serial numbers are not
given out twice. -/
structure Aside (id : Ref .registry) (counts : Observer → Bool) (w w' : World κ) : Prop where
  registry : w'.registry id = w.registry id
  observers : ∀ n service,
    (w'.observersAt n service).filter counts = (w.observersAt n service).filter counts
  memory : ∀ m, (w'.memory m).notifier = (w.memory m).notifier
  source : ∀ b, (w'.source b).notifier = (w.source b).notifier
  next_le : w.next ≤ w'.next

namespace Aside

variable {id : Ref .registry} {counts : Observer → Bool} {w v w' : World κ}

theorem refl (w : World κ) : Aside id counts w w :=
  ⟨rfl, fun _ _ => rfl, fun _ => rfl, fun _ => rfl, Nat.le_refl _⟩

theorem trans (h : Aside id counts w v) (h' : Aside id counts v w') :
    Aside id counts w w' where
  registry := h'.registry.trans h.registry
  observers n service := (h'.observers n service).trans (h.observers n service)
  memory m := (h'.memory m).trans (h.memory m)
  source b := (h'.source b).trans (h.source b)
  next_le := Nat.le_trans h.next_le h'.next_le

/-- Fewer observers that count are easier to leave alone. -/
theorem mono {counts' : Observer → Bool} (h : Aside id counts w w')
    (hle : ∀ o, counts' o = true → counts o = true) : Aside id counts' w w' where
  registry := h.registry
  observers n service := by
    have hfilter : ∀ l : List Observer, l.filter counts' = (l.filter counts).filter counts' := by
      intro l
      rw [List.filter_filter]
      apply List.filter_congr
      intro o _
      cases ho : counts' o with
      | false => rfl
      | true => simp [hle o ho]
    rw [hfilter, h.observers, ← hfilter]
  memory := h.memory
  source := h.source
  next_le := h.next_le

theorem mem_iff (h : Aside id counts w w') {o : Observer} (ho : counts o = true)
    (n : Ref .notifier) (service : String) :
    o ∈ w'.observersAt n service ↔ o ∈ w.observersAt n service := by
  have hfilter : ∀ l : List Observer, o ∈ l ↔ o ∈ l.filter counts := by simp [ho]
  rw [hfilter, h.observers, ← hfilter]

theorem notifiers_eq (h : Aside id counts w w') (d : Discovery) :
    d.notifiers w' = d.notifiers w := by
  have hleaf : Discovery.notifier? w' = Discovery.notifier? w := by
    funext leaf
    cases leaf with
    | memory m => simp [Discovery.notifier?, h.memory]
    | backed b => simp [Discovery.notifier?, h.source]
    | composite _ _ => rfl
  simp only [Discovery.notifiers, hleaf]

theorem note (w : World κ) (n : Notice) : Aside id counts w (w.note n) :=
  ⟨rfl, fun _ _ => rfl, fun _ => rfl, fun _ => rfl, Nat.le_refl _⟩

end Aside

/-- The collaborators that a registry calls keep to a relation between the worlds before
and after a call. -/
structure Host.KeepsTo (host : Host κ) (R : World κ → World κ → Prop) : Prop where
  lookup : ∀ c key group w, R w (w.after (host.lookup c key group))
  watch : ∀ b service hook w, R w (w.after (host.watch b service hook))
  instances : ∀ b service w, R w (w.after (host.instances b service))
  deliver : ∀ delivery w, R w (w.after (host.deliver delivery))

/-- In some world a backend panics with the payload when it is asked for a watch. -/
def Host.WatchPanics (host : Host κ) (payload : Payload) : Prop :=
  ∃ b service hook, ∃ w : World κ,
    w.result (host.watch b service hook) = .error (.panicked payload)

/-- Between `w` and `w'` one observer may have been put on or taken off lists; it turns up
at no other `places` than before.  All else is left aside, and a list that counted no
observer twice still does not. -/
structure Varies (id : Ref .registry) (counts : Observer → Bool) (o : Observer)
    (places : Ref .notifier → String → Prop) (w w' : World κ) : Prop where
  rest : Aside id (fun x => counts x && x ≠ o) w w'
  nodup : (∀ n service, ((w.observersAt n service).filter counts).Nodup) →
    ∀ n service, ((w'.observersAt n service).filter counts).Nodup
  only : ∀ n service, o ∈ w'.observersAt n service →
    o ∈ w.observersAt n service ∨ places n service

namespace Varies

variable {id : Ref .registry} {counts : Observer → Bool} {o : Observer}
  {places places' : Ref .notifier → String → Prop} {w v w' : World κ}

theorem refl (w : World κ) : Varies id counts o places w w :=
  ⟨Aside.refl w, fun h => h, fun _ _ h => Or.inl h⟩

theorem trans (h : Varies id counts o places w v) (h' : Varies id counts o places v w') :
    Varies id counts o places w w' where
  rest := h.rest.trans h'.rest
  nodup hw := h'.nodup (h.nodup hw)
  only n service ho := by
    rcases h'.only n service ho with ho | hplace
    · exact h.only n service ho
    · exact Or.inr hplace

theorem mono (h : Varies id counts o places w w')
    (hle : ∀ n service, places n service → places' n service) :
    Varies id counts o places' w w' :=
  ⟨h.rest, h.nodup, fun n service ho => (h.only n service ho).imp_right (hle n service)⟩

theorem notifiers_eq (h : Varies id counts o places w w') (d : Discovery) :
    d.notifiers w' = d.notifiers w :=
  h.rest.notifiers_eq d

theorem of_aside (h : Aside id counts w w') (ho : counts o = true) :
    Varies id counts o places w w' where
  rest := h.mono fun x hx => by simp_all
  nodup hw n service := by rw [h.observers]; exact hw n service
  only n service hmem := Or.inl ((h.mem_iff ho n service).1 hmem)

/-- Where the observer is on no list at either end, nothing has changed at all. -/
theorem aside_of_absent (h : Varies id counts o places w w')
    (hw : ∀ n service, o ∉ w.observersAt n service)
    (hw' : ∀ n service, o ∉ w'.observersAt n service) : Aside id counts w w' where
  registry := h.rest.registry
  observers n service := by
    have hfilter : ∀ l : List Observer, o ∉ l →
        l.filter counts = l.filter fun x => counts x && x ≠ o := by
      intro l hl
      apply List.filter_congr
      intro x hx
      have hne : x ≠ o := fun heq => hl (heq ▸ hx)
      simp [hne]
    rw [hfilter _ (hw' n service), h.rest.observers, ← hfilter _ (hw n service)]
  memory := h.rest.memory
  source := h.rest.source
  next_le := h.rest.next_le

/-- Putting the observer on a list. -/
theorem add (w : World κ) (n : Ref .notifier) (service : String) (ho : counts o = true)
    (hplace : places n service) :
    Varies id counts o places w (w.after (Notifier.add n service o)) where
  rest := by
    refine ⟨rfl, fun n' service' => ?_, fun _ => rfl, fun _ => rfl, Nat.le_refl _⟩
    rw [World.observersAt_add]
    split
    · simp [List.filter_append]
    · rfl
  nodup hw n' service' := by
    rw [World.observersAt_add]
    split
    · rename_i hnew
      rw [List.filter_append, List.filter_cons_of_pos ho, List.filter_nil,
        List.nodup_append]
      refine ⟨hw n' service', by simp, ?_⟩
      intro x hx y hy
      rw [List.mem_singleton] at hy
      subst hy
      intro heq
      subst heq
      exact hnew.2.2 (List.mem_filter.1 hx).1
    · exact hw n' service'
  only n' service' hmem := by
    rw [World.observersAt_add] at hmem
    split at hmem
    · rename_i hnew
      obtain ⟨rfl, rfl, -⟩ := hnew
      exact Or.inr hplace
    · exact Or.inl hmem

/-- Taking the observer off lists, and no other one. -/
theorem remove {ns : List (Ref .notifier)} {gone : Observer → String → Bool}
    (h : Removal ns gone w w') (hgone : ∀ x service, gone x service = true → x = o) :
    Varies id counts o places w w' where
  rest := by
    rw [h.elsewhere]
    refine ⟨rfl, fun n service => ?_, fun _ => rfl, fun _ => rfl, Nat.le_refl _⟩
    show (w'.observersAt n service).filter _ = _
    rw [h.observers]
    split
    · rw [List.filter_filter]
      apply List.filter_congr
      intro x _
      by_cases hx : x = o
      · simp [hx]
      · have hstays : gone x service = false := by
          cases hg : gone x service with
          | false => rfl
          | true => exact absurd (hgone x service hg) hx
        simp [hstays]
    · rfl
  nodup hw n service := by
    rw [h.observers]
    split
    · rw [List.filter_filter]
      simp only [Bool.and_comm (counts _), ← List.filter_filter]
      exact (hw n service).filter _
    · exact hw n service
  only n service hmem := by
    rw [h.observers] at hmem
    split at hmem
    · exact Or.inl (List.mem_filter.1 hmem).1
    · exact Or.inl hmem

end Varies

/-- What may come of adding an observer to a source that asks a backend: the service is
watched already, or the backend accepts a watch, refuses it, or panics. -/
theorem BackedSource.addObserver_cases (host : Host κ) (b : Ref .backed) (service : String)
    (o : Observer) (w : World κ) :
    let source := w.source b
    let v := w.after (Notifier.add source.notifier service o)
    let u := v.after (host.watch source.backend service source.hook)
    let asked := v.result (host.watch source.backend service source.hook)
    let result := w.result (BackedSource.addObserver host b service o).run
    let final := w.after (BackedSource.addObserver host b service o).run
    (isWatching v b service = true ∧ result = .ok () ∧ final = v) ∨
    (isWatching v b service = false ∧ asked = .ok () ∧ result = .ok () ∧
      final = (u.after (setWatched b service)).note (.watchInstalled source.name service)) ∨
    (∃ cause, asked = .error (.failed cause) ∧ result = .error (.failed cause) ∧
      final = u.after (Notifier.remove source.notifier service o)) ∨
    (∃ payload, asked = .error (.panicked payload) ∧ result = .error (.panicked payload) ∧
      final = u) := by
  intro source v u asked result final
  let ask : Act κ Unit := Act.ofResult (host.watch source.backend service source.hook)
  let watch : Act κ Unit := ask.orUndo (Notifier.remove source.notifier service o)
  let rest : Act κ Unit := do
    watch
    Act.ofRun do
      setWatched b service
      note (.watchInstalled source.name service)
  have hresult : result = v.result (if isWatching v b service then pure () else rest).run := rfl
  have hfinal : final = v.after (if isWatching v b service then pure () else rest).run := rfl
  have hask : v.result ask.run = asked := rfl
  have hasked : v.result watch.run = asked := World.result_orUndo _ _ _
  cases hwatching : isWatching v b service with
  | true =>
    rw [hwatching, if_pos rfl] at hresult hfinal
    exact Or.inl ⟨rfl, hresult, hfinal⟩
  | false =>
    rw [hwatching, if_neg (by decide)] at hresult hfinal
    refine Or.inr ?_
    rcases h : asked with (cause | payload) | _
    · refine Or.inr (Or.inl ⟨cause, rfl, ?_, ?_⟩)
      · rw [hresult, World.result_bind_of_error (hasked.trans h)]
      · rw [hfinal, World.after_bind_of_error (hasked.trans h)]
        exact World.after_orUndo_of_failed (hask.trans h) _
    · refine Or.inr (Or.inr ⟨payload, rfl, ?_, ?_⟩)
      · rw [hresult, World.result_bind_of_error (hasked.trans h)]
      · rw [hfinal, World.after_bind_of_error (hasked.trans h)]
        exact World.after_orUndo_of_panicked (hask.trans h) _
    · refine Or.inl ⟨rfl, rfl, ?_, ?_⟩
      · rw [hresult, World.result_bind_of_ok (hasked.trans h)]
        rfl
      · rw [hfinal, World.after_bind_of_ok (hasked.trans h), World.after_orUndo_of_ok (hask.trans h)]
        rfl

section KeepingTo

variable {id : Ref .registry} {counts : Observer → Bool} {o : Observer}
  {places : Ref .notifier → String → Prop} {host : Host κ}

theorem Aside.setWatched (b : Ref .backed) (service : String) (w : World κ) :
    Aside id counts w (w.after (BackedSource.setWatched b service)) where
  registry := rfl
  observers _ _ := rfl
  memory _ := rfl
  source b' := by
    by_cases h : b = b'
    · subst h
      simp [BackedSource.setWatched]
    · simp [BackedSource.setWatched, h]
  next_le := Nat.le_refl _

theorem BackedSource.addObserver_varies (hhost : host.KeepsTo (Aside id counts))
    (ho : counts o = true) (b : Ref .backed) (service : String) (w : World κ)
    (hplace : places (w.source b).notifier service) :
    Varies id counts o places w
      (w.after (BackedSource.addObserver host b service o).run) := by
  have hadd : Varies id counts o places w
      (w.after (Notifier.add (w.source b).notifier service o)) :=
    Varies.add w _ service ho hplace
  have hwatch := hadd.trans (Varies.of_aside (hhost.watch (w.source b).backend service
    (w.source b).hook _) ho)
  rcases addObserver_cases host b service o w with
    ⟨-, -, hfinal⟩ | ⟨-, -, -, hfinal⟩ | ⟨cause, -, -, hfinal⟩ | ⟨payload, -, -, hfinal⟩
  · rw [hfinal]
    exact hadd
  · rw [hfinal]
    exact hwatch.trans (Varies.of_aside ((Aside.setWatched b service _).trans (Aside.note _ _)) ho)
  · rw [hfinal]
    refine hwatch.trans (Varies.remove (Discovery.removeObserver_one _ _ service o) ?_)
    intro x service' hx
    exact (of_decide_eq_true hx).1
  · rw [hfinal]
    exact hwatch

/-- Whatever comes of adding an observer to a tree, only its own places on the lists of
that service at the leaves have changed. -/
theorem Discovery.addObserver_varies (hhost : host.KeepsTo (Aside id counts))
    (ho : counts o = true) (d : Discovery) (service : String) (w : World κ)
    (hplaces : ∀ n ∈ d.notifiers w, places n service) :
    Varies id counts o places w (w.after (d.addObserver host service o).run) := by
  induction d using treeInduction generalizing w with
  | memory m => exact Varies.add w _ service ho (hplaces _ (by simp))
  | backed b => exact BackedSource.addObserver_varies hhost ho b service w (hplaces _ (by simp))
  | composite c sources ih =>
    rw [notifiers_composite] at hplaces
    show Varies id counts o places w (w.after (addObserverToAll host service o sources).run)
    induction sources generalizing w with
    | nil => exact Varies.refl w
    | cons source rest ihRest =>
      have hfirst := ih source (by simp) w fun n hn => hplaces n (by simp [hn])
      rw [addObserverToAll]
      cases hresult : w.result (source.addObserver host service o).run with
      | error stop =>
        rw [World.after_bind_of_error hresult]
        exact hfirst
      | ok _ =>
        rw [World.after_bind_of_ok hresult]
        refine hfirst.trans (ihRest (fun s hs => ih s (by simp [hs])) _ ?_)
        intro n hn
        apply hplaces n
        simp only [funext hfirst.notifiers_eq] at hn
        simp [hn]

/-- An addition that succeeds leaves the observer where it was and puts it on the list of
each leaf. -/
theorem BackedSource.addObserver_ok (hhost : host.KeepsTo (Aside id counts))
    (ho : counts o = true) (b : Ref .backed) (service : String) (w : World κ)
    (hok : w.result (BackedSource.addObserver host b service o).run = .ok ()) :
    (∀ n service', o ∈ w.observersAt n service' →
      o ∈ (w.after (BackedSource.addObserver host b service o).run).observersAt n service') ∧
    o ∈ (w.after (BackedSource.addObserver host b service o).run).observersAt
      (w.source b).notifier service := by
  have hadd : ∀ n service', o ∈ w.observersAt n service' →
      o ∈ (w.after (Notifier.add (w.source b).notifier service o)).observersAt n service' := by
    intro n service' hmem
    simp [hmem]
  have hnew := (World.mem_observersAt_add w (w.source b).notifier service service o).2 (Or.inr rfl)
  have hwatch := hhost.watch (w.source b).backend service (w.source b).hook
    (w.after (Notifier.add (w.source b).notifier service o))
  rcases addObserver_cases host b service o w with
    ⟨-, -, hfinal⟩ | ⟨-, -, -, hfinal⟩ | ⟨cause, -, hfailed, -⟩ | ⟨payload, -, hpanicked, -⟩
  · rw [hfinal]
    exact ⟨hadd, hnew⟩
  · rw [hfinal]
    have hkeep := hwatch.trans ((Aside.setWatched b service _).trans
      (Aside.note _ (.watchInstalled (w.source b).name service)))
    exact ⟨fun n service' hmem => (hkeep.mem_iff ho n service').2 (hadd n service' hmem),
      (hkeep.mem_iff ho _ service).2 hnew⟩
  · rw [hfailed] at hok
    cases hok
  · rw [hpanicked] at hok
    cases hok

theorem Discovery.addObserver_ok (hhost : host.KeepsTo (Aside id counts))
    (ho : counts o = true) (d : Discovery) (service : String) (w : World κ)
    (hok : w.result (d.addObserver host service o).run = .ok ()) :
    (∀ n service', o ∈ w.observersAt n service' →
      o ∈ (w.after (d.addObserver host service o).run).observersAt n service') ∧
    ∀ n ∈ d.notifiers w,
      o ∈ (w.after (d.addObserver host service o).run).observersAt n service := by
  induction d using treeInduction generalizing w with
  | memory m =>
    have hfinal : w.after (addObserver host service o (memory m)).run =
        w.after (Notifier.add (w.memory m).notifier service o) := rfl
    constructor
    · intro n service' hmem
      simp [hfinal, hmem]
    · intro n hn
      obtain rfl : n = (w.memory m).notifier := by simpa using hn
      rw [hfinal]
      exact (World.mem_observersAt_add w _ service service o).2 (Or.inr rfl)
  | backed b =>
    obtain ⟨hkeeps, hnew⟩ := BackedSource.addObserver_ok hhost ho b service w hok
    refine ⟨hkeeps, fun n hn => ?_⟩
    obtain rfl : n = (w.source b).notifier := by simpa using hn
    exact hnew
  | composite c sources ih =>
    rw [notifiers_composite]
    change w.result (addObserverToAll host service o sources).run = .ok () at hok
    show (∀ n service', o ∈ w.observersAt n service' →
        o ∈ (w.after (addObserverToAll host service o sources).run).observersAt n service') ∧
      ∀ n ∈ sources.flatMap (notifiers w),
        o ∈ (w.after (addObserverToAll host service o sources).run).observersAt n service
    induction sources generalizing w with
    | nil => exact ⟨fun _ _ h => h, by simp⟩
    | cons source rest ihRest =>
      rw [addObserverToAll] at hok ⊢
      cases hresult : w.result (source.addObserver host service o).run with
      | error stop =>
        rw [World.result_bind_of_error hresult] at hok
        cases hok
      | ok _ =>
        rw [World.result_bind_of_ok hresult] at hok
        rw [World.after_bind_of_ok hresult]
        have hfirst := ih source (by simp) w hresult
        have hrest := ihRest (fun s hs => ih s (by simp [hs])) _ hok
        have hvaries : Varies id counts o (fun _ _ => True) w _ :=
          addObserver_varies hhost ho source service w fun _ _ => trivial
        rw [funext hvaries.notifiers_eq] at hrest
        refine ⟨fun n service' hmem => hrest.1 n service' (hfirst.1 n service' hmem), ?_⟩
        intro n hn
        rw [List.flatMap_cons, List.mem_append] at hn
        rcases hn with hn | hn
        · exact hrest.1 n service (hfirst.2 n hn)
        · exact hrest.2 n hn

/-- An addition that panics does so because a backend does.  The observer stays on the list of
the source that has asked that backend. -/
theorem BackedSource.addObserver_panicked (hhost : host.KeepsTo (Aside id counts))
    (ho : counts o = true) (b : Ref .backed) (service : String) (w : World κ) {payload : Payload}
    (hpanicked : w.result (BackedSource.addObserver host b service o).run =
      .error (.panicked payload)) :
    o ∈ (w.after (BackedSource.addObserver host b service o).run).observersAt
        (w.source b).notifier service ∧ host.WatchPanics payload := by
  have hnew := (World.mem_observersAt_add w (w.source b).notifier service service o).2 (Or.inr rfl)
  have hwatch := hhost.watch (w.source b).backend service (w.source b).hook
    (w.after (Notifier.add (w.source b).notifier service o))
  rcases addObserver_cases host b service o w with
    ⟨-, hresult, -⟩ | ⟨-, -, hresult, -⟩ | ⟨cause, -, hresult, -⟩ |
      ⟨payload', hasked, hresult, hfinal⟩
  · rw [hresult] at hpanicked
    cases hpanicked
  · rw [hresult] at hpanicked
    cases hpanicked
  · rw [hresult] at hpanicked
    cases hpanicked
  · obtain rfl : payload' = payload := by
      rw [hresult] at hpanicked
      injection hpanicked with hstop
      injection hstop
    rw [hfinal]
    exact ⟨(hwatch.mem_iff ho _ service).2 hnew, _, _, _, _, hasked⟩

theorem Discovery.addObserver_panicked (hhost : host.KeepsTo (Aside id counts))
    (ho : counts o = true) (d : Discovery) (service : String) (w : World κ) {payload : Payload}
    (hpanicked : w.result (d.addObserver host service o).run = .error (.panicked payload)) :
    (∃ n ∈ d.notifiers w,
      o ∈ (w.after (d.addObserver host service o).run).observersAt n service) ∧
      host.WatchPanics payload := by
  induction d using treeInduction generalizing w with
  | memory m => cases hpanicked
  | backed b =>
    obtain ⟨hnew, hwatch⟩ := BackedSource.addObserver_panicked hhost ho b service w hpanicked
    exact ⟨⟨_, by simp, hnew⟩, hwatch⟩
  | composite c sources ih =>
    rw [notifiers_composite]
    change w.result (addObserverToAll host service o sources).run = _ at hpanicked
    show (∃ n ∈ sources.flatMap (notifiers w),
      o ∈ (w.after (addObserverToAll host service o sources).run).observersAt n service) ∧ _
    induction sources generalizing w with
    | nil => cases hpanicked
    | cons source rest ihRest =>
      rw [addObserverToAll] at hpanicked ⊢
      cases hresult : w.result (source.addObserver host service o).run with
      | error stop =>
        rw [World.result_bind_of_error hresult] at hpanicked
        injection hpanicked with hstop
        obtain ⟨⟨n, hn, hmem⟩, hwatch⟩ := ih source (by simp) w (hstop ▸ hresult)
        rw [World.after_bind_of_error hresult]
        exact ⟨⟨n, by simp [hn], hmem⟩, hwatch⟩
      | ok _ =>
        rw [World.result_bind_of_ok hresult] at hpanicked
        rw [World.after_bind_of_ok hresult]
        obtain ⟨⟨n, hn, hmem⟩, hwatch⟩ := ihRest (fun s hs => ih s (by simp [hs])) _ hpanicked
        have hvaries : Varies id counts o (fun _ _ => True) w _ :=
          addObserver_varies hhost ho source service w fun _ _ => trivial
        rw [funext hvaries.notifiers_eq] at hn
        exact ⟨⟨n, by simp [hn], hmem⟩, hwatch⟩

end KeepingTo

end ServiceDirectory
