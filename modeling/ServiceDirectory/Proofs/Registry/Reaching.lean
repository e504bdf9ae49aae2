import ServiceDirectory.Proofs.Registrar.Performing
import ServiceDirectory.Proofs.Registry.Relating
import ServiceDirectory.Proofs.Registry.Session
import ServiceDirectory.Proofs.World.Nesting

/-!
# What a registry may have been through

Before a call anything may have happened to a registry.  Sinks may have called it back from within
their deliveries, panics may have torn calls down half-way, and sources may have come and gone.  Its
records and its watchers need not be in step any more.  What can be relied on whatever has happened
is that serial numbers are not given out twice: each watcher on a list has one that has been given
out, and so the next watcher is on no list yet.

`Move` lists what can happen.  While a collaborator is called, it may itself make moves, to any
depth.
-/

namespace ServiceDirectory

variable {κ : Type}

/-- Whatever the collaborators do keeps to a relation between the worlds before and after. -/
structure Host.ActsWithin (host : Host κ) (R : World κ → World κ → Prop) : Prop
    extends host.ReactsWithin R where
  command : ∀ b c w, R w (w.after (host.command b c))
  services : ∀ b w, R w (w.after (host.services b))
  watch : ∀ b service hook w, R w (w.after (host.watch b service hook))
  lookup : ∀ c key group w, R w (w.after (host.lookup c key group))

theorem Host.ActsWithin.mono {host : Host κ} {M M' : World κ → World κ → Prop}
    (h : host.ActsWithin M) (hle : ∀ {w w'}, M w w' → M' w w') : host.ActsWithin M' where
  onEvent l event w := hle (h.onEvent l event w)
  deliver delivery w := hle (h.deliver delivery w)
  handOff executor task w := hle (h.handOff executor task w)
  instances b service w := hle (h.instances b service w)
  enter lease w := hle (h.enter lease w)
  leave lease w := hle (h.leave lease w)
  command b c w := hle (h.command b c w)
  services b w := hle (h.services b w)
  watch b service hook w := hle (h.watch b service hook w)
  lookup c key group w := hle (h.lookup c key group w)

namespace Registry

variable {id : Ref .registry} {w v w' : World κ}

/-! ## What happens -/

/-- No watcher of the registry has come to a list, though some may have gone, and no serial number
has been taken back.  The rest of the world may be quite different. -/
structure Elsewhere (id : Ref .registry) (w w' : World κ) : Prop where
  next_le : w.next ≤ w'.next
  watched : ∀ x : Watcher, x.registry = id → ∀ n service,
    .watcher x ∈ w'.observersAt n service → .watcher x ∈ w.observersAt n service

/-- One thing that happens, with collaborators of which `P` holds. -/
inductive Move (id : Ref .registry) (P : Host κ → Prop) : World κ → World κ → Prop
  | elsewhere {w w' : World κ} (h : Elsewhere id w w') : Move id P w w'
  /-- A sink is subscribed, by this registry or by another one. -/
  | subscribe {host : Host κ} (h : P host) (r : Ref .registry) (url : Url) (sink : Ref .sink)
    (w : World κ) : Move id P w (w.after (Registry.subscribe host r url sink).run)
  | unsubscribe (r : Ref .registry) (url : Url) (sink : Ref .sink) (w : World κ) :
    Move id P w (w.after (Registry.unsubscribe r url sink))
  /-- A listener of a client joins a source. -/
  | join {host : Host κ} (h : P host) (d : Discovery) (service : String) (l : Ref .listener)
    (w : World κ) : Move id P w (w.after (d.addObserver host service (.client l)).run)
  | leave (d : Discovery) (service : String) (o : Observer) (w : World κ) :
    Move id P w (w.after (d.removeObserver service o))
  | perform {host : Host κ} (h : P host) (registrar : Registrar) (c : BackendCommand)
    (w : World κ) : Move id P w (w.after (registrar.perform host c).run)
  /-- A backend reports a change. -/
  | report {host : Host κ} (h : P host) (hook : WatchHook) (service : String) (w : World κ) :
    Move id P w (w.after (hook.fire host service))
  | dispatch {host : Host κ} (h : P host) (d : Ref .dispatcher) (event : Event) (w : World κ) :
    Move id P w (w.after (Dispatcher.dispatch host d event))
  /-- An executor runs a task, whichever it is. -/
  | run {host : Host κ} (h : P host) (task : Task) (w : World κ) :
    Move id P w (w.after (task.run host))
  | notify {host : Host κ} (h : P host) (n : Ref .notifier) (event : Event) (w : World κ) :
    Move id P w (w.after (Notifier.notify host n event))

/-- A run of moves among collaborators of whatever depth, who may do and answer what they like. -/
abbrev Runs (id : Ref .registry) : World κ → World κ → Prop :=
  Nesting.Runs (Move id) fun M host => host.ActsWithin M

/-! ## Serial numbers -/

/-- Serial numbers are not taken back, and watchers that have numbers that have been given out go
on to have them. -/
structure Counts (id : Ref .registry) (w w' : World κ) : Prop where
  next_le : w.next ≤ w'.next
  given : SerialsGivenOut id w → SerialsGivenOut id w'

theorem Elsewhere.counts (h : Elsewhere id w w') : Counts id w w' where
  next_le := h.next_le
  given hgiven n service x hx hmem :=
    Nat.lt_of_lt_of_le (hgiven n service x hx (h.watched x hx n service hmem)) h.next_le

namespace Counts

theorem refl (w : World κ) : Counts id w w := ⟨Nat.le_refl _, fun h => h⟩

theorem trans (h : Counts id w v) (h' : Counts id v w') : Counts id w w' :=
  ⟨Nat.le_trans h.next_le h'.next_le, fun hgiven => h'.given (h.given hgiven)⟩

/-- Where the lists are the same, nobody has come to them. -/
theorem of_notifiers (hnotifiers : w'.notifiers = w.notifiers) (hnext : w.next ≤ w'.next) :
    Counts id w w' := by
  refine Elsewhere.counts ⟨hnext, fun x _ n service hmem => ?_⟩
  rwa [World.observersAt, World.audience, hnotifiers] at hmem

theorem of_removal {ns : List (Ref .notifier)} {gone : Observer → String → Bool}
    (h : Removal ns gone w w') : Counts id w w' where
  next_le := by
    have hnext := congrArg World.next h.elsewhere
    exact Nat.le_of_eq hnext.symm
  given hgiven := hgiven.removal h

theorem note (w : World κ) (n : Notice) : Counts id w (w.note n) :=
  .of_notifiers rfl (Nat.le_refl _)

theorem disregardsLog (id : Ref .registry) : DisregardsLog (Counts (κ := κ) id) :=
  ⟨.refl, .trans, .note⟩

theorem dropSubscription (r : Ref .registry) (url : Url) (sink : Ref .sink) (w : World κ) :
    Counts id w (w.after (Registry.dropSubscription r url sink)) := by
  have htaken : Counts id w (withoutRecords w r url sink) := .of_notifiers rfl (Nat.le_refl _)
  exact htaken.trans (.of_removal (dropSubscription_removal r url sink w))

theorem subscribeUrl (m : Ref .metadata) (url : Url) (w : World κ) :
    Counts id w (w.after (MetadataStore.subscribeUrl m url)) := by
  rw [MetadataStore.after_subscribeUrl]
  exact .of_notifiers rfl (Nat.le_refl _)

theorem unsubscribeUrl (m : Ref .metadata) (url : Url) (w : World κ) :
    Counts id w (w.after (MetadataStore.unsubscribeUrl m url)) := by
  rw [MetadataStore.after_unsubscribeUrl]
  exact .of_notifiers rfl (Nat.le_refl _)

/-- An observer may come to a list unless it is a watcher of the registry whose number has not been
given out. -/
theorem add {o : Observer}
    (ho : ∀ x : Watcher, x.registry = id → o = .watcher x → x.serial < w.next)
    (n : Ref .notifier) (service : String) : Counts id w (w.after (Notifier.add n service o)) where
  next_le := Nat.le_refl _
  given hgiven n' service' x hx hmem := by
    rw [World.observersAt_add] at hmem
    split_ifs at hmem
    · rcases List.mem_append.1 hmem with hold | hnew
      · exact hgiven n' service' x hx hold
      · exact ho x hx (List.mem_singleton.1 hnew).symm
    · exact hgiven n' service' x hx hmem

theorem tolerates_client (l : Ref .listener) :
    Tolerates (Counts (κ := κ) id) (.client l) fun _ _ => True where
  refl := .refl
  trans := .trans
  stays _ _ _ _ _ _ := trivial
  add n service _ _ := .add (fun _ _ hsame => Observer.noConfusion hsame) n service
  remove n service w := .of_removal (Discovery.removeObserver_one w n service (.client l))
  setWatched _ _ _ := .of_notifiers rfl (Nat.le_refl _)
  note := .note

/-- A watcher may come to lists once its number has been given out. -/
theorem tolerates_watcher (x : Watcher) :
    Tolerates (Past x.serial (Counts (κ := κ) id)) (.watcher x) fun _ _ => True where
  refl _ hserial := ⟨hserial, .refl _⟩
  trans h h' hserial := by
    obtain ⟨hmiddle, hfirst⟩ := h hserial
    obtain ⟨hlast, hsecond⟩ := h' hmiddle
    exact ⟨hlast, hfirst.trans hsecond⟩
  stays _ _ _ _ _ _ := trivial
  add n service w _ hserial := by
    refine ⟨hserial, .add (fun y _ hsame => ?_) n service⟩
    rw [← Observer.watcher.inj hsame]
    exact hserial
  remove n service w hserial :=
    ⟨hserial, .of_removal (Discovery.removeObserver_one w n service (.watcher x))⟩
  setWatched _ _ _ hserial := ⟨hserial, .of_notifiers rfl (Nat.le_refl _)⟩
  note w n hserial := ⟨hserial, .note w n⟩

variable {host : Host κ}

theorem subscribe (hhost : host.ActsWithin (Counts id)) (r : Ref .registry) (url : Url)
    (sink : Ref .sink) (w : World κ) :
    Counts id w (w.after (Registry.subscribe host r url sink).run) := by
  refine Host.SubscribesWithin.subscribe ⟨disregardsLog id, fun h => h.next_le,
    fun _ serial services => tolerates_watcher ⟨serial, r, url, services, sink⟩, hhost.lookup,
    hhost.watch, hhost.instances, fun urls watcher w _ => hhost.deliver _ w, fun w => ?_,
    fun _ w => .dropSubscription r url sink w, fun _ watcher w _ _ _ => ?_,
    fun m w => .subscribeUrl m url w⟩ w
  · exact .of_notifiers rfl (Nat.le_succ _)
  · exact .of_notifiers rfl (Nat.le_refl _)

theorem unsubscribe (r : Ref .registry) (url : Url) (sink : Ref .sink) (w : World κ) :
    Counts id w (w.after (Registry.unsubscribe r url sink)) :=
  (Counts.dropSubscription r url sink w).trans
    (unsubscribed_keepsTo (disregardsLog id) (fun m u => .unsubscribeUrl m url u) r sink w)

end Counts

theorem Move.counts {P : Host κ → Prop} (hP : ∀ host, P host → host.ActsWithin (Counts id))
    (h : Move id P w w') : Counts id w w' := by
  have hlog := Counts.disregardsLog (κ := κ) id
  cases h with
  | elsewhere hthere => exact hthere.counts
  | subscribe hhost r url sink => exact .subscribe (hP _ hhost) r url sink w
  | unsubscribe r url sink => exact .unsubscribe r url sink w
  | join hhost d service l =>
    exact (Counts.tolerates_client l).addObserver (hP _ hhost).watch d service w fun _ _ => trivial
  | leave d service o => exact .of_removal (d.removeObserver_removal service o w)
  | perform hhost registrar c =>
    exact registrar.perform_keepsTo hlog (hP _ hhost).toReactsWithin (hP _ hhost).command
      (fun w m table => .of_notifiers rfl (Nat.le_refl _)) c w
  | report hhost hook service =>
    exact hook.fire_keepsTo hlog (hP _ hhost).toReactsWithin service w
  | dispatch hhost d event =>
    exact Dispatcher.dispatch_keepsTo hlog (hP _ hhost).toReactsWithin d event w
  | run hhost task => exact task.run_keepsTo hlog (hP _ hhost).toReactsWithin w
  | notify hhost n event =>
    exact Notifier.notify_keepsTo hlog (hP _ hhost).toReactsWithin n event w

/-- By induction on the depth, whatever happens gives out serial numbers one after the other. -/
theorem counts_nested (id : Ref .registry) :
    Nesting.KeepsTo (Move id) (fun M host => host.ActsWithin M) (Counts (κ := κ) id) :=
  ⟨.refl, .trans, Host.ActsWithin.mono, Move.counts⟩

/-- Whatever a registry has been through since it was made, the number of each of its watchers has
been given out. -/
theorem Runs.serialsGivenOut {start : World κ} (hruns : Runs id start w)
    (hstart : Unused id start) : SerialsGivenOut id w :=
  ((counts_nested id).runs hruns).given hstart.matched.given

end Registry

end ServiceDirectory
