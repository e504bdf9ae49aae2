import ServiceDirectory.Proofs.Dispatcher.Listing
import Mathlib.Data.List.TakeWhile

/-!
# Many listeners at once

To register or to remove many listeners is to do it one by one, up to the first that declares no
kind.  The calls change the roster and the log and nothing else, so all of them find the same
declarations and the same priorities.  Where the listeners of such a call were not registered
before, removing them again takes the dispatcher back to where it was: it lists the same
listeners, and every event is told to the same ones in the same order.
-/

namespace ServiceDirectory.Dispatcher

variable {κ : Type} {id : Ref .dispatcher} {kinds : Listener → Option EventKind}
  {listeners ls ls' : List Listener} {u v w : World κ}

/-! ## Lists of listeners -/

/-- To add what is in a list leaves what is not in it. -/
theorem filter_foldl_enlist (hsubset : ∀ l ∈ ls, l ∈ ls') :
    (ls.foldl enlist listeners).filter (· ∉ ls') = listeners.filter (· ∉ ls') := by
  induction ls generalizing listeners with
  | nil => rfl
  | cons l ls ih =>
    have hl : l ∈ ls' := hsubset l List.mem_cons_self
    rw [List.foldl_cons, ih fun other hother => hsubset other (List.mem_cons_of_mem _ hother),
      enlist]
    split_ifs
    · rfl
    · rw [List.filter_append, List.filter_cons_of_neg (by simpa using hl), List.filter_nil,
        List.append_nil]

namespace Request

/-- What requests make of the registered listeners, one by one. -/
def enrolEach (kinds : Listener → Option EventKind) (requests : List Request)
    (listeners : List Listener) : List Listener :=
  requests.foldl (fun kept r => r.enrol kinds kept) listeners

theorem enrolEach_add (hdeclared : ∀ l ∈ ls, kinds l ≠ none) (listeners : List Listener) :
    enrolEach kinds (ls.map add) listeners = ls.foldl enlist listeners := by
  rw [enrolEach, List.foldl_map]
  exact List.foldl_ext _ _ _ fun kept l hl => if_neg (hdeclared l hl)

theorem enrolEach_remove (kinds : Listener → Option EventKind) (ls listeners : List Listener) :
    enrolEach kinds (ls.map remove) listeners = listeners.filter (· ∉ ls) := by
  rw [enrolEach, List.foldl_map]
  induction ls generalizing listeners with
  | nil => simp
  | cons l ls ih =>
    rw [List.foldl_cons, ih, enrol, List.filter_filter]
    refine List.filter_congr fun other _ => ?_
    simp [Bool.and_comm]

/-! ## Requests one after the other -/

/-- The world after requests that are performed one by one. -/
def performEach (id : Ref .dispatcher) (requests : List Request) (w : World κ) : World κ :=
  requests.foldl (fun v r => v.after (r.perform id).run) w

/-- What requests to a dispatcher leave alone. -/
structure Steady (id : Ref .dispatcher) (w v : World κ) : Prop where
  kinds : v.declaredKind = w.declaredKind
  priority : v.priority = w.priority
  executor : (v.dispatcher id).executor = (w.dispatcher id).executor

theorem Steady.trans (h : Steady id w v) (h' : Steady id v u) : Steady id w u :=
  ⟨h'.kinds.trans h.kinds, h'.priority.trans h.priority, h'.executor.trans h.executor⟩

theorem steady_perform (w : World κ) (id : Ref .dispatcher) (r : Request) :
    Steady id w (w.after (r.perform id).run) := by
  have hexecutor : ((w.after (r.perform id).run).dispatcher id).executor =
      (w.dispatcher id).executor := by
    cases hkind : w.declaredKind r.listener with
    | none => rw [(perform_of_undeclared hkind).2]
    | some kind => rw [(perform_of_declared hkind).2]
  obtain ⟨dispatchers, journal, hafter⟩ := r.after_perform w id
  refine ⟨?_, ?_, hexecutor⟩
  · rw [hafter]
    rfl
  · rw [hafter]
    rfl

theorem steady_performEach (id : Ref .dispatcher) (requests : List Request) (w : World κ) :
    Steady id w (performEach id requests w) := by
  induction requests generalizing w with
  | nil => exact ⟨rfl, rfl, rfl⟩
  | cons r requests ih => exact (r.steady_perform w id).trans (ih _)

/-- Requests that are made together are performed up to the first one whose listener declares no
kind. -/
theorem after_forM_perform (id : Ref .dispatcher) (requests : List Request) (w : World κ) :
    w.after (requests.forM (perform id)).run =
      performEach id (requests.takeWhile fun r => (w.declaredKind r.listener).isSome) w := by
  induction requests generalizing w with
  | nil => rfl
  | cons r requests ih =>
    show w.after (r.perform id >>= fun _ => requests.forM (perform id)).run = _
    cases hkind : w.declaredKind r.listener with
    | none =>
      obtain ⟨hresult, hafter⟩ :
          w.result (r.perform id).run = .error .undeclaredListener ∧
            w.after (r.perform id).run = w :=
        perform_of_undeclared hkind
      rw [World.after_bind_of_error hresult, hafter, List.takeWhile_cons_of_neg (by simp [hkind])]
      rfl
    | some kind =>
      have hresult : w.result (r.perform id).run = .ok () := (perform_of_declared hkind).1
      rw [World.after_bind_of_ok hresult, ih, (r.steady_perform w id).kinds,
        List.takeWhile_cons_of_pos (by simp [hkind])]
      rfl

theorem result_forM_perform (id : Ref .dispatcher) (requests : List Request) (w : World κ) :
    w.result (requests.forM (perform id)).run =
      if ∃ r ∈ requests, w.declaredKind r.listener = none then .error .undeclaredListener
      else .ok () := by
  induction requests generalizing w with
  | nil => rfl
  | cons r requests ih =>
    show w.result (r.perform id >>= fun _ => requests.forM (perform id)).run = _
    cases hkind : w.declaredKind r.listener with
    | none =>
      have hresult : w.result (r.perform id).run = .error .undeclaredListener :=
        (perform_of_undeclared hkind).1
      rw [World.result_bind_of_error hresult, if_pos ⟨r, List.mem_cons_self, hkind⟩]
    | some kind =>
      have hresult : w.result (r.perform id).run = .ok () := (perform_of_declared hkind).1
      rw [World.result_bind_of_ok hresult, ih, (r.steady_perform w id).kinds]
      simp [hkind]

end Request

theorem addListeners_eq (id : Ref .dispatcher) (ls : List Listener) :
    addListeners (κ := κ) id ls = (ls.map Request.add).forM (Request.perform id) := by
  induction ls with
  | nil => rfl
  | cons l ls ih => exact congrArg (fun rest => addListener id l >>= fun _ => rest) ih

theorem removeListeners_eq (id : Ref .dispatcher) (ls : List Listener) :
    removeListeners (κ := κ) id ls = (ls.map Request.remove).forM (Request.perform id) := by
  induction ls with
  | nil => rfl
  | cons l ls ih => exact congrArg (fun rest => removeListener id l >>= fun _ => rest) ih

theorem after_addListeners (id : Ref .dispatcher) (ls : List Listener) (w : World κ) :
    w.after (addListeners id ls).run = Request.performEach id
      ((ls.takeWhile fun l => (w.declaredKind l).isSome).map Request.add) w := by
  rw [addListeners_eq, Request.after_forM_perform, List.takeWhile_map]
  rfl

theorem result_addListeners (id : Ref .dispatcher) (ls : List Listener) (w : World κ) :
    w.result (addListeners id ls).run =
      if ∃ l ∈ ls, w.declaredKind l = none then .error .undeclaredListener else .ok () := by
  simp only [addListeners_eq, Request.result_forM_perform, List.mem_map,
    exists_exists_and_eq_and, Request.listener]

/-! ## What bulk calls leave -/

/-- Each request is granted or refused in its turn. -/
theorem Enlists.performEach (h : Enlists id w.declaredKind listeners w)
    (requests : List Request) :
    Enlists id w.declaredKind (Request.enrolEach w.declaredKind requests listeners)
      (Request.performEach id requests w) := by
  induction requests generalizing listeners w with
  | nil => exact h
  | cons r requests ih =>
    have hkinds := (r.steady_perform w id).kinds
    have hnext := h.request r rfl
    rw [← hkinds] at hnext
    have hall := ih hnext
    rw [hkinds] at hall
    exact hall

/-- Requests that are made together are all granted where each listener declares a kind. -/
theorem Enlists.forM_perform (h : Enlists id w.declaredKind listeners w) (requests : List Request)
    (hdeclared : ∀ r ∈ requests, w.declaredKind r.listener ≠ none) :
    let v := w.after (requests.forM (Request.perform id)).run
    w.result (requests.forM (Request.perform id)).run = .ok () ∧ Request.Steady id w v ∧
      Enlists id w.declaredKind (Request.enrolEach w.declaredKind requests listeners) v := by
  intro v
  have hv : v = Request.performEach id requests w := by
    show w.after _ = _
    rw [Request.after_forM_perform, List.takeWhile_eq_self_iff.2]
    exact fun r hr => Option.isSome_iff_ne_none.2 (hdeclared r hr)
  refine ⟨?_, hv ▸ Request.steady_performEach id requests w, hv ▸ h.performEach requests⟩
  rw [Request.result_forM_perform, if_neg]
  rintro ⟨r, hr, hnone⟩
  exact hdeclared r hr hnone

/-- Of what is added, the listeners in front of the first one without a kind are registered. -/
theorem Enlists.addListeners (h : Enlists id w.declaredKind listeners w) (ls : List Listener) :
    let v := w.after (addListeners id ls).run
    Enlists id v.declaredKind
      ((ls.takeWhile fun l => (w.declaredKind l).isSome).foldl enlist listeners) v := by
  intro v
  have hfront : ∀ l ∈ ls.takeWhile fun l => (w.declaredKind l).isSome, w.declaredKind l ≠ none :=
    fun l hl => Option.isSome_iff_ne_none.1
      (List.mem_takeWhile_imp (p := fun l => (w.declaredKind l).isSome) hl)
  rw [show v = _ from after_addListeners id ls w, (Request.steady_performEach id _ w).kinds,
    ← Request.enrolEach_add hfront]
  exact h.performEach _

/-- Listeners that were not registered are added and removed again. -/
theorem Enlists.addListeners_removeListeners (h : Enlists id w.declaredKind listeners w)
    (hdeclared : ∀ l ∈ ls, w.declaredKind l ≠ none) (hnew : ∀ l ∈ ls, l ∉ listeners) :
    let v := w.after (Dispatcher.addListeners id ls).run
    let u := v.after (removeListeners id ls).run
    w.result (Dispatcher.addListeners id ls).run = .ok () ∧
      v.result (removeListeners id ls).run = .ok () ∧ Request.Steady id w u ∧
      Enlists id w.declaredKind listeners u := by
  intro v u
  obtain ⟨hadded, hsteady, hv⟩ :=
    h.forM_perform (ls.map Request.add) (List.forall_mem_map.2 hdeclared)
  rw [← addListeners_eq] at hadded hsteady hv
  rw [← hsteady.kinds] at hdeclared hv
  obtain ⟨hremoved, hsteady', hu⟩ :=
    hv.forM_perform (ls.map Request.remove) (List.forall_mem_map.2 hdeclared)
  rw [← removeListeners_eq] at hremoved hsteady' hu
  refine ⟨hadded, hremoved, hsteady.trans hsteady', ?_⟩
  have hkept : listeners.filter (· ∉ ls) = listeners :=
    List.filter_eq_self.2 fun l hl => by simpa using fun hin => hnew l hin hl
  rwa [Request.enrolEach_remove, Request.enrolEach_add hdeclared,
    filter_foldl_enlist fun _ hl => hl, hkept, hsteady.kinds] at hu

/-- All listeners can be removed at once. -/
theorem Enlists.removeAll (h : Enlists id w.declaredKind listeners w) :
    w.result (removeAll id).run = .ok () ∧
      Enlists id w.declaredKind [] (w.after (removeAll id).run) := by
  obtain ⟨all, hall, hbuckets⟩ := h.exists_lists w.priority
  have hlisted : Dispatcher.listeners w id = all := hbuckets _ (List.Perm.refl _)
  have hdeclared : ∀ l ∈ all, w.declaredKind l ≠ none := fun l hl =>
    h.records.1 l (hall.perm.mem_iff.1 hl)
  obtain ⟨hresult, -, hremoved⟩ :=
    h.forM_perform (all.map Request.remove) (List.forall_mem_map.2 hdeclared)
  have hnobody : listeners.filter (· ∉ all) = [] :=
    List.filter_eq_nil_iff.2 fun l hl => by simpa using hall.perm.mem_iff.2 hl
  rw [← removeListeners_eq, Request.enrolEach_remove, hnobody, ← hlisted] at hremoved
  rw [← removeListeners_eq, ← hlisted] at hresult
  exact ⟨hresult, hremoved⟩

/-! ## Dispatchers with the same listeners -/

/-- Tasks that have been captured from the same listeners tell them in the same order, whenever
they are run with the same priorities. -/
theorem Enlists.told_captured (hw : Enlists id kinds listeners w)
    (hv : Enlists id kinds listeners v) (host : Host κ) (event : Event) {y y' : World κ}
    (hpriority : y'.priority = y.priority) :
    ∃ turns, Told host event y turns (y.after ((captured w id event).run host)) ∧
      Told host event y' turns (y'.after ((captured v id event).run host)) := by
  obtain ⟨turns, hturns, hrun⟩ := hw.records.2.told_run host event y
  obtain ⟨turns', hturns', hrun'⟩ := hv.records.2.told_run host event y'
  obtain rfl := hturns.unique (hpriority ▸ hturns')
  exact ⟨_, hrun _ (List.Perm.refl _), hrun' _ (List.Perm.refl _)⟩

theorem Enlists.listeners_eq (hw : Enlists id kinds listeners w)
    (hv : Enlists id kinds listeners v) (hpriority : v.priority = w.priority) :
    Dispatcher.listeners v id = Dispatcher.listeners w id := by
  obtain ⟨all, hall, hbuckets⟩ := hw.exists_lists w.priority
  obtain ⟨all', hall', hbuckets'⟩ := hv.exists_lists w.priority
  obtain rfl := hall.unique hall'
  rw [Dispatcher.listeners, Dispatcher.listeners, hpriority, hbuckets _ (List.Perm.refl _),
    hbuckets' _ (List.Perm.refl _)]

theorem Told.eq_of_nil {host : Host κ} {event : Event} (h : Told host event w [] v) : v = w := by
  cases h
  rfl

/-- A dispatcher without listeners lists none, counts none and calls none. -/
theorem Enlists.nobody (h : Enlists id kinds [] w) :
    Dispatcher.listeners w id = [] ∧ (∀ kind, listenerCount w id kind = 0) ∧
      ∀ (host : Host κ) (event : Event) (y : World κ),
        y.after ((captured w id event).run host) = y := by
  obtain ⟨all, hall, hbuckets⟩ := h.exists_lists w.priority
  obtain ⟨ledger, hpairs, hkeeps⟩ := h.records.2.keeps
  refine ⟨?_, fun kind => ?_, fun host event y => ?_⟩
  · rw [Dispatcher.listeners, hbuckets _ (List.Perm.refl _)]
    exact hall.perm.eq_nil
  · rw [listenerCount, hkeeps.count_eq, hpairs]
    rfl
  · obtain ⟨turns, hturns, hrun⟩ := h.records.2.told_run host event y
    have hnobody : turns = [] := hturns.called.eq_nil
    have htold := hrun _ (List.Perm.refl _)
    rw [hnobody] at htold
    exact htold.eq_of_nil

/-- Bulk calls on a dispatcher whose listeners keep to the kinds that they declare.  To add a list
is to add, one by one, those that stand before the first one without a kind, and it fails if there
is such a one.  To add listeners that are new and to remove them again restores the listing, and
for every event whom its tasks call in which order.  All listeners can be removed at once, and
nobody is listed, counted or called then. -/
theorem bulk_of_enlists (h : Enlists id w.declaredKind listeners w) :
    (∀ ls : List Listener,
      let front := ls.takeWhile fun l => (w.declaredKind l).isSome
      let v := w.after (addListeners id ls).run
      v = front.foldl (fun v l => v.after (addListener id l).run) w ∧
      w.result (addListeners id ls).run =
        (if ∃ l ∈ ls, w.declaredKind l = none then .error .undeclaredListener else .ok ()) ∧
      Enlists id v.declaredKind (front.foldl enlist listeners) v) ∧
    (∀ ls : List Listener, (∀ l ∈ ls, w.declaredKind l ≠ none) → (∀ l ∈ ls, l ∉ listeners) →
      let v := w.after (addListeners id ls).run
      let u := v.after (removeListeners id ls).run
      w.result (addListeners id ls).run = .ok () ∧
      v.result (removeListeners id ls).run = .ok () ∧
      Enlists id u.declaredKind listeners u ∧
      Dispatcher.listeners u id = Dispatcher.listeners w id ∧
      ∀ (host : Host κ) (event : Event),
        (∀ y y' : World κ, y'.priority = y.priority → ∃ turns,
          Told host event y turns (y.after ((captured w id event).run host)) ∧
          Told host event y' turns (y'.after ((captured u id event).run host))) ∧
        ((w.dispatcher id).executor = .direct → ∃ turns,
          Told host event w turns (w.after (dispatch host id event)) ∧
          Told host event u turns (u.after (dispatch host id event)))) ∧
    let v := w.after (removeAll id).run
    w.result (removeAll id).run = .ok () ∧ Dispatcher.listeners v id = [] ∧
      (∀ kind, listenerCount v id kind = 0) ∧
      ∀ (host : Host κ) (event : Event),
        (∀ y : World κ, y.after ((captured v id event).run host) = y) ∧
        ((v.dispatcher id).executor = .direct → v.after (dispatch host id event) = v) := by
  refine ⟨fun ls => ⟨?_, result_addListeners id ls w, h.addListeners ls⟩,
    fun ls hdeclared hnew => ?_, ?_⟩
  · exact (after_addListeners id ls w).trans List.foldl_map
  · intro v u
    obtain ⟨hadded, hremoved, hsteady, hback⟩ := h.addListeners_removeListeners hdeclared hnew
    refine ⟨hadded, hremoved, hsteady.kinds.symm ▸ hback, h.listeners_eq hback hsteady.priority,
      fun host event => ⟨fun y y' => h.told_captured hback host event, fun hdirect => ?_⟩⟩
    rw [after_dispatch, after_dispatch, show (u.dispatcher id).executor = _ from hsteady.executor,
      hdirect]
    exact h.told_captured hback host event hsteady.priority
  · intro v
    obtain ⟨hresult, hempty⟩ := h.removeAll
    obtain ⟨hlists, hcounts, hcalls⟩ := hempty.nobody
    refine ⟨hresult, hlists, hcounts, fun host event => ⟨hcalls host event, fun hdirect => ?_⟩⟩
    rw [after_dispatch, hdirect]
    exact hcalls host event v

/-! ## Listeners of many kinds -/

section Seating

/-- Of the listeners that are known, one declares a kind below that of the others, and one declares
none. -/
def invited : World Unit :=
  let w := (World.initial ()).after (create .direct)
  ((((w.setProfile ⟨1⟩ ⟨some .any, 5⟩).setProfile ⟨2⟩ ⟨some drill, 1⟩).setProfile ⟨3⟩
    ⟨some .any, 5⟩).setProfile ⟨4⟩ ⟨none, 0⟩).setProfile ⟨5⟩ ⟨some drill, 5⟩

/-- Two of them have been registered. -/
def seated : World Unit :=
  Request.performEach ⟨0⟩ [.add (recruit 1), .add (recruit 2)] invited

theorem seated_enlists :
    Enlists ⟨0⟩ seated.declaredKind [recruit 1, recruit 2] seated := by
  have hcreated : Enlists ⟨0⟩ invited.declaredKind [] ((World.initial ()).after
    (create .direct)) := .created _ rfl
  have hinvited : Enlists ⟨0⟩ invited.declaredKind [] invited := hcreated.meanwhile rfl
  exact hinvited.performEach [.add (recruit 1), .add (recruit 2)]

/-- The others join, one of them twice, and leave; and who stands behind a listener without a kind
does not join at all. -/
theorem bulk_of_enlists_seated :
    let joining := [recruit 5, recruit 3, recruit 5]
    let joined := seated.after (addListeners ⟨0⟩ joining).run
    let left := joined.after (removeListeners ⟨0⟩ joining).run
    Enlists ⟨0⟩ seated.declaredKind [recruit 1, recruit 2] seated ∧
      seated.result (addListeners ⟨0⟩ [recruit 3, recruit 4, recruit 5]).run =
        .error .undeclaredListener ∧
      seated.after (addListeners ⟨0⟩ [recruit 3, recruit 4, recruit 5]).run =
        seated.after (addListener ⟨0⟩ (recruit 3)).run ∧
      Enlists ⟨0⟩ joined.declaredKind [recruit 1, recruit 2, recruit 5, recruit 3] joined ∧
      Dispatcher.listeners left ⟨0⟩ = [recruit 2, recruit 1] ∧
      Dispatcher.listeners (joined.after (removeAll ⟨0⟩).run) ⟨0⟩ = [] := by
  intro joining joined left
  obtain ⟨hadd, hrestore, -⟩ := bulk_of_enlists seated_enlists
  obtain ⟨hfront, hrefused, -⟩ := hadd [recruit 3, recruit 4, recruit 5]
  obtain ⟨-, -, hjoined⟩ := hadd joining
  obtain ⟨-, -, -, hback, -⟩ := hrestore joining (by decide) (by decide)
  obtain ⟨-, -, -, hnobody, -⟩ := bulk_of_enlists hjoined
  obtain ⟨all, hall, hbuckets⟩ := seated_enlists.exists_lists seated.priority
  have hexpected : Lists seated.priority [recruit 1, recruit 2] [recruit 2, recruit 1] :=
    ⟨by decide, by decide⟩
  obtain rfl := hall.unique hexpected
  exact ⟨seated_enlists, hrefused.trans (if_pos ⟨recruit 4, by decide, rfl⟩), hfront, hjoined,
    hback.trans (hbuckets _ (List.Perm.refl _)), hnobody⟩

end Seating

end ServiceDirectory.Dispatcher
