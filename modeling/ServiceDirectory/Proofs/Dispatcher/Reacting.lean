import ServiceDirectory.Proofs.Dispatcher.Turns
import ServiceDirectory.Proofs.Freshness.Reporting

/-!
# What listeners are told and what they leave

Listeners that are told one after the other may be cut into groups, and a bridge among them
tells a whole list of observers in its turn.  Listeners and the collaborators behind them may
do much to the world; whatever relation their own steps keep to, a task keeps to as well.
-/

namespace ServiceDirectory

variable {κ : Type}

namespace Dispatcher

variable {host : Host κ} {event : Event}

/-! ## Turns of a captured task -/

theorem InTurn.subset {priority : Listener → Int} {kind : EventKind}
    {pairs turns : List (String × Listener)} (h : InTurn priority kind pairs turns)
    {pair : String × Listener} (hpair : pair ∈ turns) : pair ∈ pairs :=
  List.mem_of_mem_filter (h.called.mem_iff.1 hpair)

section Capturing

variable {id : Ref .dispatcher} {pairs : List (String × Listener)} {x : World κ}

theorem Records.pairs_nodup (h : Records id pairs x) : pairs.Nodup := by
  obtain ⟨ledger, rfl, hkeeps⟩ := h.keeps
  exact hkeeps.numbered.pairs_nodup

/-- Whenever a task is run, it tells the listeners of the pairs that there were when it was
captured, by the priorities of the moment. -/
theorem Records.told_run (h : Records id pairs x) (host : Host κ) (event : Event)
    (y : World κ) :
    ∃ turns, InTurn y.priority event.kind pairs turns ∧
      ∀ buckets : Buckets, buckets.Perm (x.dispatcher id).roster.buckets.entries →
        Told host event y (turns.map Prod.snd) (y.after (Task.run host ⟨buckets, event⟩)) := by
  obtain ⟨ledger, rfl, hkeeps⟩ := h.keeps
  obtain ⟨turns, hturns, hlisteners⟩ := InTurn.exists_of_keeps hkeeps y.priority event.kind
  refine ⟨turns, hturns, fun buckets hbuckets => ?_⟩
  rw [← hlisteners buckets hbuckets]
  exact Dispatcher.told_run host ⟨buckets, event⟩ y

/-- Who always declares the same kind is registered for that kind and for nothing else. -/
theorem Records.kind_eq (h : Records id pairs x) {name : String} {l : Listener}
    (hmem : (name, l) ∈ pairs) {kind : EventKind}
    (hkind : ∀ w : World κ, w.declaredKind l = some kind) : name = kind.name := by
  induction h with
  | created _ _ => cases hmem
  | refused _ _ _ ih => exact ih hmem
  | @revised _ w _ r declared hdeclared ih =>
    rcases Request.mem_of_mem_revise hmem with hold | ⟨rfl, rfl⟩
    · exact ih hold
    · exact congrArg EventKind.name (Option.some.inj (hdeclared.symm.trans (hkind w)))
  | meanwhile _ _ ih => exact ih hmem

/-- A pair whose kind is above the event has one turn. -/
theorem Records.turn_of_mem (h : Records id pairs x) {priority : Listener → Int}
    {kind : EventKind} {turns : List (String × Listener)}
    (hturns : InTurn priority kind pairs turns) {pair : String × Listener} (hpair : pair ∈ pairs)
    (hkind : pair.1 ∈ kind.ancestors.map EventKind.name) :
    ∃ before after, turns = before ++ pair :: after ∧
      ∀ other ∈ before ++ after, other ∈ pairs ∧ other ≠ pair ∧
        other.1 ∈ kind.ancestors.map EventKind.name := by
  have hturn : pair ∈ turns :=
    hturns.called.mem_iff.2 (List.mem_filter.2 ⟨hpair, decide_eq_true hkind⟩)
  have hnodup : turns.Nodup := hturns.called.nodup_iff.2 (h.pairs_nodup.filter _)
  obtain ⟨before, after, rfl⟩ := List.append_of_mem hturn
  refine ⟨before, after, rfl, fun other hother => ?_⟩
  have hcalled : other ∈ before ++ pair :: after := by
    rcases List.mem_append.1 hother with hother | hother
    · exact List.mem_append_left _ hother
    · exact List.mem_append_right _ (List.mem_cons_of_mem _ hother)
  refine ⟨hturns.subset hcalled, ?_, ?_⟩
  · rintro rfl
    exact (List.nodup_middle.1 hnodup).notMem hother
  · exact of_decide_eq_true (List.mem_filter.1 (hturns.called.mem_iff.1 hcalled)).2

end Capturing

/-! ## Groups of listeners -/

theorem told_append {w w' : World κ} {first second : List Listener} :
    Told host event w (first ++ second) w' ↔
      ∃ v, Told host event w first v ∧ Told host event v second w' := by
  constructor
  · intro h
    -- Each listener may change the world, so the induction is for all worlds.
    induction first generalizing w with
    | nil => exact ⟨w, .done w, h⟩
    | cons l rest ih =>
      cases h with
      | returned hreact hrest =>
        obtain ⟨v, hfirst, hsecond⟩ := ih hrest
        exact ⟨v, .returned hreact hfirst, hsecond⟩
      | panicked hreact hrest =>
        obtain ⟨v, hfirst, hsecond⟩ := ih hrest
        exact ⟨v, .panicked hreact hfirst, hsecond⟩
  · rintro ⟨v, hfirst, hsecond⟩
    induction hfirst with
    | done w => exact hsecond
    | returned hreact _ ih => exact .returned hreact (ih hsecond)
    | panicked hreact _ ih => exact .panicked hreact (ih hsecond)

/-- A bridge never panics, and the next listener goes on where its notifier has stopped. -/
theorem told_bridge_cons {w w' : World κ} {serial : Nat} {n : Ref .notifier}
    {rest : List Listener} :
    Told host event w (.bridge serial n :: rest) w' ↔
      Told host event (w.after (Notifier.notify host n event)) rest w' := by
  constructor
  · intro h
    cases h with
    | returned _ hrest => exact hrest
    | panicked hreact _ => cases hreact
  · exact fun h => .returned rfl h

/-- A notifier tells the observers of the service, and logs that it does if it has a list. -/
theorem told_notify {service : String} {instances : List Instance}
    (hcontent : event.content = .membership service instances) (n : Ref .notifier) (w : World κ) :
    ∃ v, (v = w ∨ ∃ notice, v = w.note notice) ∧
      Told host event v (((w.audience n).observers service).map Listener.observer)
        (w.after (Notifier.notify host n event)) := by
  rw [Notifier.notify, hcontent]
  dsimp only
  rw [World.after_bind, World.after_get, World.result_get]
  cases hlist : (w.audience n).list? service with
  | none =>
    rw [Audience.observers, hlist]
    exact ⟨w, Or.inl rfl, .done w⟩
  | some observers =>
    rw [Audience.observers, hlist]
    exact ⟨_, Or.inr ⟨_, rfl⟩, told_forM host event Listener.observer observers _⟩

end Dispatcher

/-! ## What is kept to -/

/-- A relation that can be kept to step by step and takes no notice of the log. -/
structure DisregardsLog (R : World κ → World κ → Prop) : Prop where
  refl : ∀ w, R w w
  trans : ∀ {u v w}, R u v → R v w → R u w
  note : ∀ w n, R w (World.note w n)

/-- Whatever the collaborators do in answer to an event keeps to a relation between the worlds
before and after. -/
structure Host.ReactsWithin (host : Host κ) (R : World κ → World κ → Prop) : Prop where
  onEvent : ∀ listener event w, R w (w.after (host.onEvent listener event))
  deliver : ∀ delivery w, R w (w.after (host.deliver delivery))
  handOff : ∀ executor task w, R w (w.after (host.handOff executor task))
  instances : ∀ b service w, R w (w.after (host.instances b service))
  enter : ∀ lease w, R w (w.after (host.enter lease))
  leave : ∀ lease w, R w (w.after (host.leave lease))

/-- Collaborators that do nothing keep to anything. -/
theorem Host.quiet_reactsWithin {R : World κ → World κ → Prop} (hR : DisregardsLog R) :
    Host.quiet.ReactsWithin R where
  onEvent _ _ := hR.refl
  deliver _ := hR.refl
  handOff _ _ := hR.refl
  instances _ _ := hR.refl
  enter _ := hR.refl
  leave _ := hR.refl

section Keeping

variable {host : Host κ} {R : World κ → World κ → Prop} (hR : DisregardsLog R)
  (hhost : host.ReactsWithin R)

include hR

/-- What each listener keeps to, all of them keep to. -/
theorem Dispatcher.Told.keepsTo {event : Event} {listeners : List Listener} {w w' : World κ}
    (h : Told host event w listeners w')
    (hreact : ∀ l ∈ listeners, ∀ v, R v (v.after (l.react host event))) : R w w' := by
  induction h with
  | done w => exact hR.refl w
  | returned _ _ ih =>
    exact hR.trans (hreact _ List.mem_cons_self _)
      (ih fun l hl => hreact l (List.mem_cons_of_mem _ hl))
  | panicked _ _ ih =>
    exact hR.trans (hR.trans (hreact _ List.mem_cons_self _) (hR.note _ _))
      (ih fun l hl => hreact l (List.mem_cons_of_mem _ hl))

include hhost

theorem Watcher.refresh_keepsTo (watcher : Watcher) (event : Event) (w : World κ) :
    R w (w.after (watcher.refresh host event)) := by
  have hways := watcher.refresh_cases host event w
  dsimp only at hways
  generalize (w.registry watcher.registry).discovery = d at hways
  have hentered := hhost.enter (.discovery d) w
  have hasked := hR.trans hentered (instanceUrls_keepsTo hhost.instances hR.refl hR.trans d
    watcher.subscribed watcher.services _)
  rcases hways with ⟨-, hfinal⟩ | ⟨cause, -, hfinal⟩ | ⟨urls, -, hfinal⟩
  · rw [hfinal]
    exact hentered
  · rw [hfinal]
    exact hR.trans (hR.trans hasked (hR.note _ _)) (hhost.leave _ _)
  · rw [hfinal]
    exact hR.trans (hR.trans (hR.trans hasked (hR.note _ _)) (hhost.deliver _ _))
      (hhost.leave _ _)

theorem Observer.react_keepsTo (o : Observer) (event : Event) (w : World κ) :
    R w (w.after (o.react host event)) := by
  cases o with
  | client listener => exact hhost.onEvent listener event w
  | watcher watcher => exact watcher.refresh_keepsTo hR hhost event w

theorem Dispatcher.Told.observers_keepTo {event : Event} {observers : List Observer}
    {w w' : World κ} (h : Told host event w (observers.map Listener.observer) w') : R w w' := by
  refine h.keepsTo hR fun l hl v => ?_
  obtain ⟨o, -, rfl⟩ := List.mem_map.1 hl
  exact o.react_keepsTo hR hhost event v

theorem Notifier.notify_keepsTo (n : Ref .notifier) (event : Event) (w : World κ) :
    R w (w.after (notify host n event)) := by
  cases hcontent : event.content with
  | membership service instances =>
    obtain ⟨v, hv, htold⟩ := Dispatcher.told_notify hcontent n w
    have hheard := htold.observers_keepTo hR hhost
    rcases hv with rfl | ⟨notice, rfl⟩
    · exact hheard
    · exact hR.trans (hR.note w notice) hheard
  | _ =>
    rw [notify, hcontent]
    exact hR.refl w

theorem Listener.react_keepsTo (l : Listener) (event : Event) (w : World κ) :
    R w (w.after (l.react host event)) := by
  cases l with
  | observer o => exact o.react_keepsTo hR hhost event w
  | bridge serial n => exact Notifier.notify_keepsTo hR hhost n event w

theorem Task.run_keepsTo (task : Task) (w : World κ) : R w (w.after (task.run host)) :=
  (Dispatcher.told_run host task w).keepsTo hR fun l _ v => l.react_keepsTo hR hhost task.event v

theorem Dispatcher.dispatch_keepsTo (id : Ref .dispatcher) (event : Event) (w : World κ) :
    R w (w.after (dispatch host id event)) := by
  rw [dispatch, World.after_bind, World.after_get, World.result_get]
  dsimp only
  cases (w.dispatcher id).executor with
  | direct => exact Task.run_keepsTo hR hhost _ w
  | external executor => exact hhost.handOff executor _ w

theorem WatchHook.fire_keepsTo (hook : WatchHook) (service : String) (w : World κ) :
    R w (w.after (hook.fire host service)) := by
  have hways := hook.fire_cases host service w
  dsimp only at hways
  have hentered := hhost.enter (.backend hook.backend) w
  have hasked := hR.trans hentered (hhost.instances hook.backend service _)
  rcases hways with ⟨-, hfinal⟩ | ⟨cause, -, hfinal⟩ | ⟨instances, -, hfinal⟩
  · rw [hfinal]
    exact hentered
  · rw [hfinal]
    exact hR.trans (hR.trans hasked (hR.note _ _)) (hhost.leave _ _)
  · rw [hfinal]
    exact hR.trans (hR.trans (hR.trans hasked (hR.note _ _))
      (Dispatcher.dispatch_keepsTo hR hhost _ _ _)) (hhost.leave _ _)

end Keeping

end ServiceDirectory
