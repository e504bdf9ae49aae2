import ServiceDirectory.Discovery.Observers
import ServiceDirectory.Proofs.World.After
import ServiceDirectory.Proofs.World.Fields

/-!
# Trees of sources

A composite is a tree whose leaves are the sources that keep instances or ask a
backend.  Each leaf has a notifier, and a service has one list of observers at each
notifier.  Removing an observer is a matter of these lists alone.
-/

namespace ServiceDirectory

variable {κ : Type}

namespace Discovery

/-- Induction over trees, with the hypothesis for every part of a composite. -/
@[elab_as_elim]
theorem treeInduction {motive : Discovery → Prop}
    (memory : ∀ id, motive (memory id)) (backed : ∀ id, motive (backed id))
    (composite : ∀ id sources, (∀ source ∈ sources, motive source) →
      motive (composite id sources)) (d : Discovery) : motive d :=
  match d with
  | .memory id => memory id
  | .backed id => backed id
  | .composite id sources =>
    composite id sources fun source _ => treeInduction memory backed composite source
termination_by sizeOf d
decreasing_by
  have hlt : sizeOf source < sizeOf sources := List.sizeOf_lt_of_mem ‹_›
  simp only [Discovery.composite.sizeOf_spec]
  omega

/-- The notifier of a leaf. -/
def notifier? (w : World κ) : Discovery → Option (Ref .notifier)
  | memory id => some (w.memory id).notifier
  | backed id => some (w.source id).notifier
  | composite _ _ => none

/-- The notifiers of the leaves, from left to right. -/
def notifiers (w : World κ) (d : Discovery) : List (Ref .notifier) :=
  d.leaves.filterMap (notifier? w)

theorem leavesOfAll_eq_flatMap (sources : List Discovery) :
    leavesOfAll sources = sources.flatMap leaves := by
  induction sources with
  | nil => rfl
  | cons source rest ih => simp [leavesOfAll, ih]

@[simp]
theorem notifiers_memory (w : World κ) (id : Ref .memory) :
    notifiers w (memory id) = [(w.memory id).notifier] := rfl

@[simp]
theorem notifiers_backed (w : World κ) (id : Ref .backed) :
    notifiers w (backed id) = [(w.source id).notifier] := rfl

@[simp]
theorem notifiers_composite (w : World κ) (id : Ref .composite) (sources : List Discovery) :
    notifiers w (composite id sources) = sources.flatMap (notifiers w) := by
  have hdef : notifiers w = fun d => d.leaves.filterMap (notifier? w) := rfl
  simp only [hdef, leaves, leavesOfAll_eq_flatMap, List.filterMap_flatMap]

end Discovery

/-- The observers of a service at a notifier. -/
def World.observersAt (w : World κ) (n : Ref .notifier) (service : String) : List Observer :=
  (w.audience n).observers service

@[simp]
theorem World.observersAt_add (w : World κ) (n n' : Ref .notifier) (service service' : String)
    (o : Observer) :
    (w.after (Notifier.add n service o)).observersAt n' service' =
      if n = n' ∧ service = service' ∧ o ∉ w.observersAt n' service'
      then w.observersAt n' service' ++ [o] else w.observersAt n' service' := by
  by_cases hn : n = n'
  · subst hn
    simp [Notifier.add, World.observersAt, Audience.observers_add]
  · simp [Notifier.add, World.observersAt, hn]

theorem World.mem_observersAt_add (w : World κ) (n : Ref .notifier) (service service' : String)
    (o : Observer) :
    o ∈ (w.after (Notifier.add n service o)).observersAt n service' ↔
      o ∈ w.observersAt n service' ∨ service' = service := by
  rw [World.observersAt_add]
  by_cases hs : service = service' <;> by_cases ho : o ∈ w.observersAt n service' <;>
    simp [hs, ho, eq_comm]

@[simp]
theorem World.observersAt_remove (w : World κ) (n n' : Ref .notifier)
    (service service' : String) (o : Observer) :
    (w.after (Notifier.remove n service o)).observersAt n' service' =
      if n = n' ∧ service = service'
      then (w.observersAt n' service').filter (· ≠ o) else w.observersAt n' service' := by
  by_cases hn : n = n'
  · subst hn
    simp [Notifier.remove, World.observersAt, Audience.observers_remove]
  · simp [Notifier.remove, World.observersAt, hn]

/-! ## Taking observers off their lists -/

/-- `w'` is `w` with observers taken off the lists at some notifiers: for each service
those that are `gone` for it.  Nothing else differs. -/
structure Removal (ns : List (Ref .notifier)) (gone : Observer → String → Bool)
    (w w' : World κ) : Prop where
  elsewhere : w' = { w with notifiers := w'.notifiers }
  observers : ∀ n service, w'.observersAt n service =
    if n ∈ ns then (w.observersAt n service).filter fun o => !gone o service
    else w.observersAt n service

namespace Removal

variable {ns ns' : List (Ref .notifier)} {gone gone' : Observer → String → Bool}
  {w v w' : World κ}

theorem refl (ns : List (Ref .notifier)) (w : World κ) :
    Removal ns (fun _ _ => false) w w :=
  ⟨rfl, fun n service => by simp [List.filter_eq_self.2]⟩

theorem notifiers_eq (h : Removal ns gone w w') (d : Discovery) :
    d.notifiers w' = d.notifiers w := by
  rw [h.elsewhere]
  rfl

/-- One removal after another, at the same notifiers. -/
theorem trans (h : Removal ns gone w v) (h' : Removal ns gone' v w') :
    Removal ns (fun o service => gone o service || gone' o service) w w' := by
  constructor
  · rw [h'.elsewhere, h.elsewhere]
  · intro n service
    rw [h'.observers, h.observers]
    split
    · simp only [List.filter_filter, Bool.not_or, Bool.and_comm]
    · rfl

/-- The same removal at further notifiers. -/
theorem append (h : Removal ns gone w v) (h' : Removal ns' gone v w') :
    Removal (ns ++ ns') gone w w' := by
  constructor
  · rw [h'.elsewhere, h.elsewhere]
  · intro n service
    rw [h'.observers, h.observers]
    by_cases hn : n ∈ ns <;> by_cases hn' : n ∈ ns' <;>
      simp [hn, hn', List.filter_filter]

theorem congr (h : Removal ns gone w w') (heq : ∀ o service, gone o service = gone' o service) :
    Removal ns gone' w w' := by
  have hgone : gone = gone' := funext fun o => funext (heq o)
  exact hgone ▸ h

end Removal

namespace Discovery

theorem removeObserver_one (w : World κ) (n : Ref .notifier) (service : String)
    (o : Observer) :
    Removal [n] (fun o' service' => o' = o ∧ service' = service) w
      (w.after (Notifier.remove n service o)) := by
  refine ⟨rfl, fun n' service' => ?_⟩
  rw [World.observersAt_remove]
  by_cases hn : n = n' <;> by_cases hs : service = service'
  · simp [hn, hs]
  · simp [hn, hs, Ne.symm hs, List.filter_eq_self.2]
  · simp [hn, Ne.symm hn]
  · simp [hn, Ne.symm hn]

/-- An observer that is removed from a tree is taken off one list of each leaf. -/
theorem removeObserver_removal (d : Discovery) (service : String) (o : Observer)
    (w : World κ) :
    Removal (d.notifiers w) (fun o' service' => o' = o ∧ service' = service) w
      (w.after (d.removeObserver service o)) := by
  induction d using treeInduction generalizing w with
  | memory id => exact removeObserver_one w (w.memory id).notifier service o
  | backed id => exact removeObserver_one w (w.source id).notifier service o
  | composite id sources ih =>
    rw [notifiers_composite]
    show Removal _ _ w (w.after (removeObserverFromAll service o sources))
    induction sources generalizing w with
    | nil =>
      refine ⟨rfl, fun n service' => ?_⟩
      simp [removeObserverFromAll]
    | cons source rest ihRest =>
      have hfirst := ih source (by simp) w
      have hrest := ihRest (fun s hs => ih s (by simp [hs]))
        (w.after (source.removeObserver service o))
      have hns : rest.flatMap (notifiers (w.after (source.removeObserver service o))) =
          rest.flatMap (notifiers w) := by
        simp only [funext hfirst.notifiers_eq]
      rw [hns] at hrest
      simpa [removeObserverFromAll] using hfirst.append hrest

end Discovery

end ServiceDirectory
