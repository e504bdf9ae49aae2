import ServiceDirectory.Proofs.Registrar.Performing

/-!
# Panics of listeners

A panic of a listener is contained where the listener is called, and all that it leaves is a line
in the log.  Two runs are compared here whose collaborators do the same, except that listeners may
panic in one of them and return in the other, and that take no notice of the log.
-/

namespace ServiceDirectory

variable {κ α β : Type}

/-- The worlds differ in their logs at most. -/
def World.SameButLog (w w' : World κ) : Prop := ∃ journal, w' = { w with journal }

theorem World.SameButLog.note {w w' : World κ} (h : w.SameButLog w') (n n' : Notice) :
    (w.note n).SameButLog (w'.note n') := by
  obtain ⟨journal, rfl⟩ := h
  exact ⟨_, rfl⟩

theorem World.SameButLog.note_left {w w' : World κ} (h : w.SameButLog w') (n : Notice) :
    (w.note n).SameButLog w' := by
  obtain ⟨journal, rfl⟩ := h
  exact ⟨_, rfl⟩

theorem World.SameButLog.note_right {w w' : World κ} (h : w.SameButLog w') (n : Notice) :
    w.SameButLog (w'.note n) := by
  obtain ⟨journal, rfl⟩ := h
  exact ⟨_, rfl⟩

/-! ## Computations that do the same -/

/-- From worlds that differ in the log at most, the computations lead to such worlds. -/
def SameEffects (m : Run κ α) (m' : Run κ β) : Prop :=
  ∀ ⦃w w' : World κ⦄, w.SameButLog w' → (w.after m).SameButLog (w'.after m')

/-- They give the same value there too. -/
def SameRuns (m m' : Run κ α) : Prop :=
  ∀ ⦃w w' : World κ⦄, w.SameButLog w' →
    w.result m = w'.result m' ∧ (w.after m).SameButLog (w'.after m')

theorem SameRuns.effects {m m' : Run κ α} (h : SameRuns m m') : SameEffects m m' :=
  fun _ _ hw => (h hw).2

theorem SameEffects.pure (a : α) (b : β) :
    SameEffects (κ := κ) (Pure.pure a : Run κ α) (Pure.pure b : Run κ β) :=
  fun _ _ hw => hw

theorem SameRuns.pure (a : α) : SameRuns (κ := κ) (Pure.pure a : Run κ α) (Pure.pure a) :=
  fun _ _ hw => ⟨rfl, hw⟩

section Binding

variable {γ δ : Type}

theorem SameEffects.bind {m : Run κ α} {m' : Run κ β} {f : α → Run κ γ} {f' : β → Run κ δ}
    (hm : SameEffects m m') (hf : ∀ a b, SameEffects (f a) (f' b)) :
    SameEffects (m >>= f) (m' >>= f') :=
  fun _ _ hw => hf _ _ (hm hw)

theorem SameRuns.bind_effects {m m' : Run κ α} {f : α → Run κ γ} {f' : α → Run κ δ}
    (hm : SameRuns m m') (hf : ∀ a, SameEffects (f a) (f' a)) :
    SameEffects (m >>= f) (m' >>= f') := by
  intro w w' hw
  obtain ⟨hresult, hafter⟩ := hm hw
  rw [World.after_bind, World.after_bind, ← hresult]
  exact hf _ hafter

theorem SameRuns.bind {m m' : Run κ α} {f f' : α → Run κ γ} (hm : SameRuns m m')
    (hf : ∀ a, SameRuns (f a) (f' a)) : SameRuns (m >>= f) (m' >>= f') := by
  intro w w' hw
  obtain ⟨hresult, hafter⟩ := hm hw
  rw [World.result_bind, World.result_bind, World.after_bind, World.after_bind, ← hresult]
  exact hf _ hafter

theorem SameRuns.bind_except {ε : Type} {m m' : ExceptT ε (Run κ) α}
    {f f' : α → ExceptT ε (Run κ) γ} (hm : SameRuns m.run m'.run)
    (hf : ∀ a, SameRuns (f a).run (f' a).run) : SameRuns (m >>= f).run (m' >>= f').run := by
  rw [ExceptT.run_bind, ExceptT.run_bind]
  refine hm.bind fun result => ?_
  cases result with
  | error e => exact .pure _
  | ok a => exact hf a

theorem SameEffects.then_pure {m : Run κ α} {m' : Run κ β} (hm : SameEffects m m') (c : γ) :
    SameRuns (m >>= fun _ => Pure.pure c) (m' >>= fun _ => Pure.pure c) :=
  fun _ _ hw => ⟨rfl, hm hw⟩

/-- What is read off a world must not depend on its log. -/
theorem SameEffects.get_bind {f : World κ → Run κ γ} {f' : World κ → Run κ δ}
    (hf : ∀ (w : World κ) journal, SameEffects (f w) (f' { w with journal })) :
    SameEffects (get >>= f) (get >>= f') := by
  rintro w _ ⟨journal, rfl⟩
  exact hf w journal ⟨journal, rfl⟩

end Binding

theorem SameEffects.note (n n' : Notice) :
    SameEffects (κ := κ) (ServiceDirectory.note n) (ServiceDirectory.note n') :=
  fun _ _ hw => hw.note n n'

theorem SameEffects.forM {f f' : α → Run κ Unit} (h : ∀ a, SameEffects (f a) (f' a))
    (items : List α) : SameEffects (items.forM f) (items.forM f') := by
  intro w w' hw
  induction items generalizing w w' with
  | nil => exact hw
  | cons a rest ih =>
    rw [World.after_forM_cons, World.after_forM_cons]
    exact ih (h a hw)

/-- It does not matter whether a reaction panics. -/
theorem SameEffects.contain {m m' : Run κ (Option Payload)} (h : SameEffects m m') (event : Event)
    (priority priority' : World κ → Int) :
    SameEffects (ServiceDirectory.contain event priority m)
      (ServiceDirectory.contain event priority' m') := by
  intro w w' hw
  have hreacted := h hw
  rw [ServiceDirectory.contain, ServiceDirectory.contain, World.after_bind, World.after_bind]
  cases w.result m with
  | none =>
    cases w'.result m' with
    | none => exact hreacted
    | some _ => exact hreacted.note_right _
  | some _ =>
    cases w'.result m' with
    | none => exact hreacted.note_left _
    | some _ => exact hreacted.note _ _

/-! ## The library -/

/-- In answer to an event the collaborators do the same, and they take no notice of the log.
Whether a listener or a sink panics is not compared. -/
structure Host.ReactsAlike (host host' : Host κ) : Prop where
  onEvent : ∀ l event, SameEffects (host.onEvent l event) (host'.onEvent l event)
  deliver : ∀ delivery, SameEffects (host.deliver delivery) (host'.deliver delivery)
  handOff : ∀ executor task, SameEffects (host.handOff executor task) (host'.handOff executor task)
  instances : ∀ b service, SameRuns (host.instances b service) (host'.instances b service)
  enter : ∀ lease, SameRuns (host.enter lease) (host'.enter lease)
  leave : ∀ lease, SameEffects (host.leave lease) (host'.leave lease)

/-- The same holds of backends that are called. -/
structure Host.SameButPanics (host host' : Host κ) : Prop extends host.ReactsAlike host' where
  command : ∀ b c, SameRuns (host.command b c) (host'.command b c)

section Comparing

variable {host host' : Host κ}

section

variable (h : host.ReactsAlike host')

include h

theorem Discovery.instances_sameRuns (d : Discovery) (service : String) :
    SameRuns (d.instances host service).run (d.instances host' service).run := by
  induction d using treeInduction with
  | memory m =>
    rintro w _ ⟨journal, rfl⟩
    exact ⟨rfl, journal, rfl⟩
  | backed b =>
    rintro w _ ⟨journal, rfl⟩
    exact h.instances (w.source b).backend service ⟨journal, rfl⟩
  | composite c sources ih =>
    show SameRuns (instancesOfAll host service sources).run
      (instancesOfAll host' service sources).run
    induction sources with
    | nil => exact .pure _
    | cons source rest ihRest =>
      rw [instancesOfAll, instancesOfAll]
      refine (ih source List.mem_cons_self).bind_except fun first => ?_
      refine (ihRest fun s hs => ih s (List.mem_cons_of_mem _ hs)).bind_except fun others => ?_
      exact .pure _

theorem instanceUrls_sameRuns (d : Discovery) (url : Url) (services : List String) :
    SameRuns (instanceUrls host d url services).run (instanceUrls host' d url services).run := by
  induction services with
  | nil => exact .pure _
  | cons service rest ih =>
    rw [instanceUrls, instanceUrls]
    refine (d.instances_sameRuns h service).bind_except fun first => ?_
    exact ih.bind_except fun others => .pure _

theorem Watcher.refresh_sameEffects (watcher : Watcher) (event : Event) :
    SameEffects (watcher.refresh host event) (watcher.refresh host' event) := by
  refine SameEffects.get_bind fun w journal => ?_
  refine (h.enter (.discovery (w.registry watcher.registry).discovery)).bind_effects fun there => ?_
  cases there with
  | false => exact .pure _ _
  | true =>
    refine (instanceUrls_sameRuns h _ _ _).bind_effects fun result => ?_
    have hleave : ∀ outcome outcome' : Option Payload, SameEffects
        (host.leave (.discovery (w.registry watcher.registry).discovery) >>= fun _ => pure outcome)
        (host'.leave (.discovery (w.registry watcher.registry).discovery) >>= fun _ =>
          pure outcome') :=
      fun _ _ => (h.leave _).bind fun _ _ => .pure _ _
    cases result with
    | error cause => exact (SameEffects.note _ _).bind fun _ _ => hleave none none
    | ok urls =>
      exact (SameEffects.note _ _).bind fun _ _ => (h.deliver _).bind fun _ _ => hleave _ _

theorem Observer.react_sameEffects (o : Observer) (event : Event) :
    SameEffects (o.react host event) (o.react host' event) := by
  cases o with
  | client l => exact h.onEvent l event
  | watcher watcher => exact watcher.refresh_sameEffects h event

theorem Notifier.notify_sameEffects (n : Ref .notifier) (event : Event) :
    SameEffects (notify host n event) (notify host' n event) := by
  unfold notify
  cases event.content with
  | membership service instances =>
    refine SameEffects.get_bind fun w journal => ?_
    have hsame : World.audience { w with journal } n = w.audience n := rfl
    rw [hsame]
    cases (w.audience n).list? service with
    | none => exact .pure _ _
    | some observers =>
      refine (SameEffects.note _ _).bind fun _ _ => SameEffects.forM (fun o => ?_) observers
      exact (o.react_sameEffects h event).contain event _ _
  | _ => exact .pure _ _

theorem Listener.react_sameEffects (l : Listener) (event : Event) :
    SameEffects (l.react host event) (l.react host' event) := by
  cases l with
  | observer o => exact o.react_sameEffects h event
  | bridge serial n =>
    exact (Notifier.notify_sameEffects h n event).bind fun _ _ => .pure _ _

theorem Task.run_sameEffects (task : Task) : SameEffects (task.run host) (task.run host') := by
  refine SameEffects.get_bind fun w journal => ?_
  have hpriority : World.priority { w with journal } = w.priority := by
    funext l
    cases l <;> rfl
  rw [hpriority]
  refine SameEffects.forM (fun registration => ?_) _
  exact (registration.listener.react_sameEffects h task.event).contain task.event _ _

theorem Dispatcher.dispatch_sameEffects (d : Ref .dispatcher) (event : Event) :
    SameEffects (dispatch host d event) (dispatch host' d event) := by
  refine SameEffects.get_bind fun w journal => ?_
  have hsame : World.dispatcher { w with journal } d = w.dispatcher d := rfl
  rw [hsame]
  dsimp only
  cases (w.dispatcher d).executor with
  | direct => exact Task.run_sameEffects h _
  | external executor => exact h.handOff executor _

theorem Dispatcher.dispatchEach_sameEffects (d : Ref .dispatcher) (events : List Event) :
    SameEffects (events.forM (dispatch host d)) (events.forM (dispatch host' d)) :=
  SameEffects.forM (dispatch_sameEffects h d) events

/-- A report of a backend does the same too. -/
theorem WatchHook.fire_sameEffects (hook : WatchHook) (service : String) :
    SameEffects (hook.fire host service) (hook.fire host' service) := by
  refine (h.enter (.backend hook.backend)).bind_effects fun there => ?_
  cases there with
  | false => exact .pure _ _
  | true =>
    refine (h.instances hook.backend service).bind_effects fun result => ?_
    cases result with
    | error cause => exact (SameEffects.note _ _).bind fun _ _ => h.leave _
    | ok instances =>
      refine (SameEffects.note _ _).bind fun _ _ => ?_
      exact (Dispatcher.dispatch_sameEffects h _ _).bind fun _ _ => h.leave _

theorem Registrar.submit_sameRuns (m : Ref .memory) (r : MemorySource.Request) :
    SameRuns (r.submit host m).run (r.submit host' m).run := by
  rintro w _ ⟨journal, rfl⟩
  have hmemory : World.memory { w with journal } m = w.memory m := rfl
  rw [r.result_submit, r.result_submit, r.after_submit, r.after_submit, r.after_perform,
    r.after_perform, hmemory]
  refine ⟨rfl, ?_⟩
  have hsettled : (r.settle m w).SameButLog (r.settle m { w with journal }) := by
    rw [MemorySource.Request.settle, MemorySource.Request.settle, hmemory]
    cases (r.edit (w.memory m).table).2 with
    | none => exact ⟨journal, rfl⟩
    | some table => exact ⟨_, rfl⟩
  cases (r.edit (w.memory m).table).2 with
  | none => exact ⟨journal, rfl⟩
  | some table =>
    obtain ⟨journal', hsettle⟩ := hsettled
    rw [hsettle]
    exact Notifier.notify_sameEffects h _ _ ⟨journal', rfl⟩

end

namespace Registrar

variable (h : host.SameButPanics host')

include h

/-- The answer of a call does not depend on whether listeners panic. -/
theorem perform_sameRuns (r : Registrar) (c : BackendCommand) :
    SameRuns (r.perform host c).run (r.perform host' c).run := by
  induction r with
  | memory m =>
    cases c with
    | register x => exact submit_sameRuns h.toReactsAlike m (.add x)
    | update x => exact submit_sameRuns h.toReactsAlike m (.update x)
    | unregister x => exact submit_sameRuns h.toReactsAlike m (.remove x)
    | start => exact .pure _
    | stop => exact .pure _
  | backed b =>
    rw [perform_backed, perform_backed]
    rintro w _ ⟨journal, rfl⟩
    exact h.command (w.source b).backend c ⟨journal, rfl⟩
  | publishing source delegate d ih =>
    intro w w' hw
    rw [result_publishing, result_publishing, after_publishing, after_publishing]
    have hopened :=
      Dispatcher.dispatchEach_sameEffects h.toReactsAlike d (opening source c) hw
    obtain ⟨hresult, hcalled⟩ := ih hopened
    refine ⟨hresult, ?_⟩
    rw [← hresult]
    cases World.result _ (delegate.perform host c).run with
    | error _ => exact hcalled
    | ok _ => exact Dispatcher.dispatch_sameEffects h.toReactsAlike d _ hcalled

theorem performEach_sameRuns (r : Registrar) (calls : List BackendCommand) :
    SameRuns (r.performEach host calls) (r.performEach host' calls) := by
  induction calls with
  | nil => exact .pure _
  | cons c rest ih =>
    rw [performEach, performEach]
    refine (r.perform_sameRuns h c).bind fun result => ?_
    exact ih.bind fun results => .pure _

end Registrar

end Comparing

end ServiceDirectory
