import ServiceDirectory.Proofs.Dispatcher.Capturing
import ServiceDirectory.Proofs.Registrar.Panicking

/-!
# A listener for all events

A listener that is registered for all events hears each event once, in its turn.  It writes down
what it hears.  The other listeners may panic and may do what they like to the world, as long as
they dispatch no events of their own and leave the listener on the dispatcher.
-/

namespace ServiceDirectory

variable {κ : Type}

open Dispatcher

/-- The listener is registered for all events and for nothing else, and is told without delay. -/
structure Attends (d : Ref .dispatcher) (root : Ref .listener) (w : World κ) : Prop where
  direct : (w.dispatcher d).executor = .direct
  registered : ∃ pairs, Records d pairs w ∧
    ∀ kind, (kind, .observer (.client root)) ∈ pairs ↔ kind = EventKind.any.name

theorem Attends.elsewhere {d : Ref .dispatcher} {root : Ref .listener} {w w' : World κ}
    (h : Attends d root w) (hsame : w'.dispatcher d = w.dispatcher d) : Attends d root w' := by
  obtain ⟨hdirect, pairs, hrecords, hroot⟩ := h
  exact ⟨hsame ▸ hdirect, pairs, hrecords.meanwhile hsame, hroot⟩

/-- The listener stays on the dispatcher, and nothing is struck out of its notebook. -/
structure Continues (d : Ref .dispatcher) (root : Ref .listener) (notebook : κ → List Event)
    (w w' : World κ) : Prop where
  attends : Attends d root w → Attends d root w'
  notebook : notebook w.client <+: notebook w'.client

/-- The listener writes down what it is told of.  Whoever else is told of what happens to instances
and registrars writes nothing into its notebook, and nobody takes it off the dispatcher. -/
structure Host.Notes (host : Host κ) (d : Ref .dispatcher) (root : Ref .listener)
    (notebook : κ → List Event) : Prop where
  own : ∀ (event : Event) (w : World κ), notebook (w.after (host.onEvent root event)).client =
    notebook w.client ++ [event]
  others : ∀ (l : Ref .listener) (event : Event) (w : World κ), l ≠ root →
    event.kind ≠ .membership →
    notebook (w.after (host.onEvent l event)).client = notebook w.client
  reacts : host.ReactsWithin (Continues d root notebook)
  command : ∀ b c w, Continues d root notebook w (w.after (host.command b c))

section Hearing

variable {host : Host κ} {d : Ref .dispatcher} {root : Ref .listener} {notebook : κ → List Event}
  {w : World κ} {event : Event}

theorem Continues.elsewhere {w w' : World κ} (hsame : w'.dispatcher d = w.dispatcher d)
    (hclient : w'.client = w.client) : Continues d root notebook w w' :=
  ⟨fun h => h.elsewhere hsame, hclient ▸ List.prefix_refl _⟩

theorem continues_disregardsLog (d : Ref .dispatcher) (root : Ref .listener)
    (notebook : κ → List Event) : DisregardsLog (Continues d root notebook) where
  refl _ := .elsewhere rfl rfl
  trans h h' := ⟨fun hattends => h'.attends (h.attends hattends), h.notebook.trans h'.notebook⟩
  note _ _ := .elsewhere rfl rfl

/-- What is told before a listener and after it keeps to what the other listeners keep to. -/
theorem Dispatcher.Told.cut {R : World κ → World κ → Prop} (hR : DisregardsLog R) {l : Listener}
    {before after : List Listener} {w w' : World κ}
    (h : Told host event w (before ++ l :: after) w')
    (hothers : ∀ other ∈ before ++ after, ∀ v, R v (v.after (other.react host event))) :
    ∃ v, R w v ∧ R (v.after (l.react host event)) w' := by
  obtain ⟨v, hbefore, hrest⟩ := told_append.1 h
  refine ⟨v, hbefore.keepsTo hR fun other hother => hothers other (List.mem_append_left _ hother),
    ?_⟩
  have hafter : ∀ u, Told host event u after w' → R u w' := fun _ hafter =>
    hafter.keepsTo hR fun other hother => hothers other (List.mem_append_right _ hother)
  cases hrest with
  | returned _ hrest => exact hafter _ hrest
  | panicked _ hrest => exact hR.trans (hR.note _ _) (hafter _ hrest)

variable (host) in
/-- The listener has one turn among the turns of an event.  Those that always declare the same kind
have no turn unless that kind is above the event. -/
theorem Attends.turn {R : World κ → World κ → Prop} (hR : DisregardsLog R)
    (hattends : Attends d root w)
    (hevent : EventKind.any.name ∈ event.kind.ancestors.map EventKind.name)
    (hothers : ∀ l, l ≠ .observer (.client root) →
      (∀ kind : EventKind, (∀ v : World κ, v.declaredKind l = some kind) →
        kind.name ∈ event.kind.ancestors.map EventKind.name) →
      ∀ v, R v (v.after (l.react host event))) :
    ∃ v, R w v ∧ R (v.after (host.onEvent root event)) (w.after (dispatch host d event)) := by
  obtain ⟨hdirect, pairs, hrecords, hroot⟩ := hattends
  obtain ⟨turns, hturns, hrun⟩ := hrecords.told_run host event w
  have htold := hrun _ (List.Perm.refl _)
  obtain ⟨before, after, rfl, hcut⟩ := hrecords.turn_of_mem hturns ((hroot _).2 rfl) hevent
  rw [List.map_append, List.map_cons] at htold
  rw [after_dispatch, hdirect]
  refine htold.cut hR fun l hl => ?_
  rw [← List.map_append] at hl
  obtain ⟨⟨name, l⟩, hpair, rfl⟩ := List.mem_map.1 hl
  obtain ⟨hmem, hne, hkind⟩ := hcut _ hpair
  refine hothers l ?_ fun kind hdeclared => ?_
  · rintro rfl
    exact hne (congrArg (·, _) ((hroot name).1 hmem))
  · rw [← hrecords.kind_eq hmem hdeclared]
    exact hkind

/-- The kinds of events that registrars publish are below the topmost kind, and not below that of
changes. -/
def EventKind.IsPublished (kind : EventKind) : Prop :=
  EventKind.any.name ∈ kind.ancestors.map EventKind.name ∧
    EventKind.membership.name ∉ kind.ancestors.map EventKind.name

theorem EventKind.IsPublished.ne {kind : EventKind} (h : kind.IsPublished) :
    kind ≠ .membership := by
  rintro rfl
  exact h.2 List.mem_cons_self

theorem InstanceChange.isPublished (change : InstanceChange) : change.kind.IsPublished := by
  cases change <;> exact ⟨by decide, by decide⟩

theorem isPublished_lifecycle (started : Bool) :
    (EventContent.lifecycle started).kind.IsPublished := by
  cases started <;> exact ⟨by decide, by decide⟩

theorem isPublished_opening (source : String) (c : BackendCommand) :
    ∀ event ∈ Registrar.opening source c, event.kind.IsPublished := by
  intro event hevent
  cases c with
  | register x =>
    obtain rfl := List.mem_singleton.1 hevent
    exact InstanceChange.preRegistered.isPublished
  | _ => cases hevent

theorem isPublished_closing (source : String) (c : BackendCommand) :
    (Registrar.closing source c).kind.IsPublished := by
  cases c with
  | register x => exact InstanceChange.registered.isPublished
  | update x => exact InstanceChange.updated.isPublished
  | unregister x => exact InstanceChange.unregistered.isPublished
  | start => exact isPublished_lifecycle true
  | stop => exact isPublished_lifecycle false

variable (hhost : host.Notes d root notebook)

include hhost

/-- An event of a registrar is heard, and nothing else is. -/
theorem Host.Notes.heard (hattends : Attends d root w) (hevent : event.kind.IsPublished) :
    notebook (w.after (dispatch host d event)).client = notebook w.client ++ [event] := by
  have hR : DisregardsLog fun v v' : World κ => notebook v'.client = notebook v.client :=
    ⟨fun _ => rfl, fun h h' => h'.trans h, fun _ _ => rfl⟩
  obtain ⟨v, hbefore, hafter⟩ := hattends.turn host hR hevent.1 (by
    intro l hne hfixed v
    -- Watchers and bridges declare changes only, so none of them has a turn.
    match l with
    | .observer (.client l) =>
      exact hhost.others l event v (fun hl => hne (hl ▸ rfl)) hevent.ne
    | .observer (.watcher _) => exact absurd (hfixed .membership fun _ => rfl) hevent.2
    | .bridge _ _ => exact absurd (hfixed .membership fun _ => rfl) hevent.2)
  rw [hafter, hhost.own, hbefore]

/-- Any event is heard among others. -/
theorem Host.Notes.heard_among (hattends : Attends d root w)
    (hevent : EventKind.any.name ∈ event.kind.ancestors.map EventKind.name) :
    ∃ before after, notebook (w.after (dispatch host d event)).client =
      notebook w.client ++ before ++ event :: after := by
  have hR := continues_disregardsLog d root notebook
  obtain ⟨v, hbefore, hafter⟩ := hattends.turn host hR hevent
    fun l _ _ v => l.react_keepsTo hR hhost.reacts event v
  obtain ⟨before, hbefore⟩ := hbefore.notebook
  obtain ⟨after, hafter⟩ := hafter.notebook
  rw [hhost.own, ← hbefore] at hafter
  exact ⟨before, after, by rw [← hafter]; simp⟩

theorem Host.Notes.dispatch_continues (event : Event) (w : World κ) :
    Continues d root notebook w (w.after (dispatch host d event)) :=
  dispatch_keepsTo (continues_disregardsLog d root notebook) hhost.reacts d event w

theorem Host.Notes.perform_continues (r : Registrar) (c : BackendCommand) (w : World κ) :
    Continues d root notebook w (w.after (r.perform host c).run) :=
  Registrar.perform_keepsTo (continues_disregardsLog d root notebook) hhost.reacts hhost.command
    (fun _ _ _ => .elsewhere rfl rfl) r c w

/-- A report is heard when the backend is there and answers. -/
theorem Host.Notes.fire_heard (hattends : Attends d root w) {hook : WatchHook}
    (hhook : hook.dispatcher = d) {service : String} {instances : List Instance}
    (henter : w.result (host.enter (.backend hook.backend)) = true)
    (hasked : (w.after (host.enter (.backend hook.backend))).result
      (host.instances hook.backend service) = .ok instances) :
    ∃ before after, notebook (w.after (hook.fire host service)).client =
      notebook w.client ++ before ++
        Event.raise hook.source (.membership service instances) :: after := by
  have hR := continues_disregardsLog d root notebook
  rcases hook.fire_cases host service w with
    ⟨hgone, -⟩ | ⟨cause, hfailed, -⟩ | ⟨instances', hanswered, hfinal⟩
  · exact absurd (henter.symm.trans hgone) (by simp)
  · exact absurd (hasked.symm.trans hfailed) (by simp)
  obtain rfl := Except.ok.inj (hasked.symm.trans hanswered)
  have hreached := hR.trans (hR.trans (hhost.reacts.enter (.backend hook.backend) w)
    (hhost.reacts.instances hook.backend service _))
    (hR.note _ (.changeReported hook.source service instances.length))
  obtain ⟨earlier, hearlier⟩ := hreached.notebook
  have hevent : EventKind.any.name ∈
      (Event.raise hook.source (.membership service instances)).kind.ancestors.map
        EventKind.name :=
    (by decide : EventKind.any.name ∈ EventKind.membership.ancestors.map EventKind.name)
  obtain ⟨before, after, hheard⟩ := hhost.heard_among (hreached.attends hattends) hevent
  obtain ⟨later, hlater⟩ := (hhost.reacts.leave (.backend hook.backend) _).notebook
  rw [hhook] at hfinal
  rw [hfinal, ← hlater, hheard, ← hearlier]
  exact ⟨earlier ++ before, after ++ later, by simp⟩

theorem Host.Notes.performEach_continues (r : Registrar) (calls : List BackendCommand)
    (w : World κ) : Continues d root notebook w (w.after (r.performEach host calls)) := by
  induction calls generalizing w with
  | nil => exact .elsewhere rfl rfl
  | cons c rest ih =>
    exact (continues_disregardsLog d root notebook).trans (hhost.perform_continues r c w) (ih _)

end Hearing

end ServiceDirectory
