import Mathlib.Data.Set.Basic
import ServiceDirectory.Proofs.Dispatcher.Capturing

/-!
# The forest of kinds

Kinds are compared by name alone while a chain is walked, so a kind can be taken for a namesake
with other ancestors.  Where equal names imply equal chains this does not happen: a kind accepts
another one if and only if its chain is the end of the other chain.  The ends of one list are
ordered by inclusion, and so the kinds form a forest.  A listener that is told of the events of
a kind is told of the events of every kind below it, however deep.
-/

namespace ServiceDirectory

namespace EventKind

variable {F : Set EventKind} {k l : EventKind}

/-! ## Chains -/

theorem head?_ancestors (k : EventKind) : k.ancestors.head? = some k := by
  cases k <;> rfl

theorem mem_ancestors_self (k : EventKind) : k ∈ k.ancestors :=
  List.mem_of_mem_head? (head?_ancestors k)

/-- A kind is above another one if and only if its chain is the end of the other chain. -/
theorem mem_ancestors_iff : k ∈ l.ancestors ↔ k.ancestors <:+ l.ancestors := by
  constructor
  · intro h
    induction l with
    | root n =>
      obtain rfl := List.mem_singleton.1 h
      exact List.suffix_rfl
    | child n p ih =>
      rcases List.mem_cons.1 h with rfl | habove
      · exact List.suffix_rfl
      · exact (ih habove).trans (List.suffix_cons _ _)
  · exact fun h => h.subset (mem_ancestors_self k)

theorem eq_of_ancestors_eq (h : k.ancestors = l.ancestors) : k = l := by
  have hhead := head?_ancestors k
  rw [h, head?_ancestors] at hhead
  exact (Option.some.inj hhead).symm

/-- The names on its chain tell a kind. -/
theorem eq_of_map_name_eq (h : k.ancestors.map name = l.ancestors.map name) : k = l := by
  have hne : ∀ p : EventKind, p.ancestors.map name ≠ [] := fun p hnil => by
    cases p <;> cases hnil
  induction k generalizing l with
  | root n =>
    cases l with
    | root n' =>
      have hname : n = n' := List.head_eq_of_cons_eq h
      rw [hname]
    | child n' p' => exact absurd (List.tail_eq_of_cons_eq h).symm (hne p')
  | child n p ih =>
    cases l with
    | root n' => exact absurd (List.tail_eq_of_cons_eq h) (hne p)
    | child n' p' =>
      have hname : n = n' := List.head_eq_of_cons_eq h
      rw [hname, ih (List.tail_eq_of_cons_eq h)]

/-- Whoever takes the events of a kind takes those of the kinds below it. -/
theorem map_name_subset (h : k ∈ l.ancestors) :
    k.ancestors.map name ⊆ l.ancestors.map name :=
  List.map_subset name (mem_ancestors_iff.1 h).subset

/-! ## Families -/

/-- In a family, equal names imply equal chains.  The kinds on the chain of a member belong to the
family as well: it is with their names that the name of a member is compared. -/
def Unambiguous (F : Set EventKind) : Prop :=
  ∀ k ∈ F, ∀ l ∈ F, ∀ a ∈ l.ancestors, a.name = k.name →
    a.ancestors.map name = k.ancestors.map name

/-- Otherwise two kinds might each have a namesake above the other one. -/
example :
    let k := child "a" (root "b")
    let l := child "b" (root "a")
    k.name ≠ l.name ∧ k.accepts l = true ∧ l.accepts k = true := by
  decide

/-- If the parents of the members are listed as members, these are all that is compared. -/
theorem unambiguous_iff (hparent : ∀ k ∈ F, ∀ p ∈ k.parent?, p ∈ F) :
    Unambiguous F ↔ ∀ k ∈ F, ∀ l ∈ F, l.name = k.name →
      l.ancestors.map name = k.ancestors.map name := by
  have habove : ∀ l ∈ F, ∀ a ∈ l.ancestors, a ∈ F := by
    intro l hl a ha
    induction l with
    | root n => rwa [List.mem_singleton.1 ha]
    | child n p ih =>
      rcases List.mem_cons.1 ha with rfl | ha
      · exact hl
      · exact ih (hparent (child n p) hl p rfl) ha
  constructor
  · exact fun h k hk l hl hname => h k hk l hl l (mem_ancestors_self l) hname
  · exact fun h k hk l hl a ha hname => h k hk a (habove l hl a ha) hname

/-- What is found by name on the chain of a member is the kind that was looked for. -/
theorem Unambiguous.accepts_iff (hF : Unambiguous F) (hk : k ∈ F) (hl : l ∈ F) :
    k.accepts l = true ↔ k ∈ l.ancestors := by
  rw [accepts, isNamedAbove_iff, List.mem_map]
  constructor
  · rintro ⟨a, ha, hname⟩
    rwa [← eq_of_map_name_eq (hF k hk l hl a ha hname)]
  · exact fun h => ⟨k, h, rfl⟩

/-- To accept is to be above, and this orders the members of a family as a forest. -/
structure IsForest (F : Set EventKind) : Prop where
  above : ∀ k ∈ F, ∀ l ∈ F, k.accepts l = true ↔ k ∈ l.ancestors
  refl : ∀ k ∈ F, k.accepts k = true
  antisymm : ∀ k ∈ F, ∀ l ∈ F, k.accepts l = true → l.accepts k = true → k.name = l.name
  trans : ∀ k ∈ F, ∀ l ∈ F, ∀ m ∈ F,
    k.accepts l = true → l.accepts m = true → k.accepts m = true
  comparable : ∀ k ∈ F, ∀ l ∈ F, ∀ m ∈ F,
    k.accepts m = true → l.accepts m = true → k.accepts l = true ∨ l.accepts k = true

theorem Unambiguous.isForest (hF : Unambiguous F) : IsForest F := by
  have hsuffix : ∀ k ∈ F, ∀ l ∈ F, k.accepts l = true ↔ k.ancestors <:+ l.ancestors :=
    fun k hk l hl => (hF.accepts_iff hk hl).trans mem_ancestors_iff
  refine ⟨fun k hk l hl => hF.accepts_iff hk hl, fun k _ => accepts_refl k, ?_, ?_, ?_⟩
  · intro k hk l hl hkl hlk
    have hend := (hsuffix k hk l hl).1 hkl
    have hback := (hsuffix l hl k hk).1 hlk
    rw [eq_of_ancestors_eq (hend.eq_of_length_le hback.length_le)]
  · intro k hk l hl m hm hkl hlm
    exact (hsuffix k hk m hm).2 (((hsuffix k hk l hl).1 hkl).trans ((hsuffix l hl m hm).1 hlm))
  · intro k hk l hl m hm hkm hlm
    have hends := List.suffix_or_suffix_of_suffix ((hsuffix k hk m hm).1 hkm)
      ((hsuffix l hl m hm).1 hlm)
    exact hends.imp (hsuffix k hk l hl).2 (hsuffix l hl k hk).2

end EventKind

/-! ## Who is told -/

namespace Dispatcher

variable {pairs turns turns' : List (String × Listener)} {k l : EventKind}

/-- The pairs that an event of a kind calls are called by the events below it. -/
theorem InTurn.subset_of_mem_ancestors {priority priority' : Listener → Int}
    (habove : k ∈ l.ancestors) (h : InTurn priority k pairs turns)
    (h' : InTurn priority' l pairs turns') : turns ⊆ turns' := by
  intro pair hpair
  obtain ⟨hmem, hkind⟩ := (h.mem_iff pair).1 hpair
  exact (h'.mem_iff pair).2 ⟨hmem, EventKind.map_name_subset habove hkind⟩

/-- At equal priorities they are called in the same order, and the others in between. -/
theorem InTurn.sublist_of_mem_ancestors {priority : Listener → Int}
    (habove : k ∈ l.ancestors) (h : InTurn priority k pairs turns)
    (h' : InTurn priority l pairs turns') : turns.Sublist turns' := by
  let isCalled (pair : String × Listener) : Bool :=
    decide (pair.1 ∈ k.ancestors.map EventKind.name)
  have hfilter : (pairs.filter fun pair => pair.1 ∈ l.ancestors.map EventKind.name).filter
      isCalled = pairs.filter isCalled := by
    rw [List.filter_filter]
    refine List.filter_congr fun pair _ => ?_
    rw [Bool.and_eq_left_iff_imp, decide_eq_true_iff, decide_eq_true_iff]
    exact fun hkind => EventKind.map_name_subset habove hkind
  have hcalled : InTurn priority k pairs (turns'.filter isCalled) :=
    ⟨hfilter ▸ h'.called.filter isCalled, h'.order.filter isCalled⟩
  rw [h.unique hcalled]
  exact List.filter_sublist

end Dispatcher

namespace EventKind

open Dispatcher

/-- Where equal names imply equal chains, kinds are a forest under acceptance.  A kind accepts
what is declared below a parent if and only if it has the declared name or accepts the parent,
and this needs no assumption.  So a listener that is told of the events of a kind is told of
those of every kind below it.  That holds whenever the tasks of the two events are run, and at
equal priorities the listeners of the one are told in the same order by the other. -/
theorem forest_of_unambiguous {κ : Type} {F : Set EventKind} (hF : Unambiguous F)
    (host : Host κ) (id : Ref .dispatcher) :
    IsForest F ∧
    (∀ (k : EventKind) (n : String) (p : EventKind),
      k.accepts (child n p) = true ↔ k.name = n ∨ k.accepts p = true) ∧
    ∀ pairs (w : World κ), Records id pairs w →
      (∀ event, w.after (dispatch host id event) = match (w.dispatcher id).executor with
        | .direct => w.after ((captured w id event).run host)
        | .external executor => w.after (host.handOff executor (captured w id event))) ∧
      ∀ event event' : Event, event.kind ∈ event'.kind.ancestors → ∀ v v' : World κ,
        ∃ turns turns',
          Told host event v (turns.map Prod.snd) (v.after ((captured w id event).run host)) ∧
          Told host event' v' (turns'.map Prod.snd)
            (v'.after ((captured w id event').run host)) ∧
          InTurn v.priority event.kind pairs turns ∧
          InTurn v'.priority event'.kind pairs turns' ∧
          turns ⊆ turns' ∧ (v.priority = v'.priority → turns.Sublist turns') := by
  refine ⟨hF.isForest, ?_, ?_⟩
  · intro k n p
    rw [accepts_child, Bool.or_eq_true, beq_iff_eq, eq_comm]
  · intro pairs w hrecords
    refine ⟨fun event => after_dispatch host id event w, fun event event' habove v v' => ?_⟩
    obtain ⟨turns, hturns, hrun⟩ := hrecords.told_run host event v
    obtain ⟨turns', hturns', hrun'⟩ := hrecords.told_run host event' v'
    refine ⟨turns, turns', hrun _ (List.Perm.refl _), hrun' _ (List.Perm.refl _), hturns,
      hturns', hturns.subset_of_mem_ancestors habove hturns', fun hpriority => ?_⟩
    rw [hpriority] at hturns
    exact hturns.sublist_of_mem_ancestors habove hturns'

/-! ## The kinds of this library -/

theorem known_unambiguous : Unambiguous {k | k ∈ known} := by
  have hparent : ∀ k ∈ known, ∀ p ∈ k.parent?, p ∈ known := by decide
  have hnames : ∀ k ∈ known, ∀ l ∈ known, l.name = k.name →
      l.ancestors.map name = k.ancestors.map name := by decide
  exact (unambiguous_iff hparent).2 hnames

section Watching

def watcherOfAll : Listener := .observer (.client ⟨1⟩)

def watcherOfLifecycles : Listener := .observer (.client ⟨2⟩)

def watcherOfStarts : Listener := .observer (.client ⟨3⟩)

/-- Three listeners declare kinds one below the other. -/
def tiers : World Unit :=
  let w := (World.initial ()).after (create .direct)
  ((w.setProfile ⟨1⟩ ⟨some .any, 5⟩).setProfile ⟨2⟩ ⟨some .lifecycle, 1⟩).setProfile ⟨3⟩
    ⟨some .started, 3⟩

/-- They have been registered. -/
def tiered : World Unit :=
  ((tiers.after ((Request.add watcherOfAll).perform ⟨0⟩).run).after
    ((Request.add watcherOfLifecycles).perform ⟨0⟩).run).after
    ((Request.add watcherOfStarts).perform ⟨0⟩).run

def tieredPairs : List (String × Listener) :=
  [("event", watcherOfAll), ("service-registry-lifecycle", watcherOfLifecycles),
    ("service-registry-started", watcherOfStarts)]

theorem tiered_records : Records ⟨0⟩ tieredPairs tiered := by
  have hcreated : Records ⟨0⟩ [] ((World.initial ()).after (create .direct)) := .created _ rfl
  have htiers : Records ⟨0⟩ [] tiers := hcreated.meanwhile rfl
  exact ((htiers.revised (.add watcherOfAll) .any rfl).revised (.add watcherOfLifecycles)
    .lifecycle rfl).revised (.add watcherOfStarts) .started rfl

/-- A start is told to the listeners for all events and for life cycles, which are two steps and
one step above it, and to the listener for starts in between. -/
theorem forest_of_unambiguous_tiered :
    let move : Event := .raise "registry" (.custom lifecycle "move")
    let start : Event := .raise "registry" (.lifecycle true)
    Unambiguous {k | k ∈ known} ∧ IsForest {k | k ∈ known} ∧ Records ⟨0⟩ tieredPairs tiered ∧
      move.kind ∈ start.kind.ancestors ∧
      Told Host.quiet move tiered [watcherOfLifecycles, watcherOfAll]
        (tiered.after (dispatch Host.quiet ⟨0⟩ move)) ∧
      Told Host.quiet start tiered [watcherOfLifecycles, watcherOfStarts, watcherOfAll]
        (tiered.after (dispatch Host.quiet ⟨0⟩ start)) := by
  intro move start
  obtain ⟨hforest, -, htold⟩ := forest_of_unambiguous known_unambiguous Host.quiet ⟨0⟩
  obtain ⟨hdispatch, hbelow⟩ := htold tieredPairs tiered tiered_records
  obtain ⟨turns, turns', hrun, hrun', hturns, hturns', -⟩ :=
    hbelow move start (by decide) tiered tiered
  have hmove : InTurn tiered.priority move.kind tieredPairs
      [("service-registry-lifecycle", watcherOfLifecycles), ("event", watcherOfAll)] :=
    ⟨by decide, by decide⟩
  have hstart : InTurn tiered.priority start.kind tieredPairs
      [("service-registry-lifecycle", watcherOfLifecycles),
        ("service-registry-started", watcherOfStarts), ("event", watcherOfAll)] :=
    ⟨by decide, by decide⟩
  obtain rfl := hturns.unique hmove
  obtain rfl := hturns'.unique hstart
  exact ⟨known_unambiguous, hforest, tiered_records, by decide, (hdispatch move).symm ▸ hrun,
    (hdispatch start).symm ▸ hrun'⟩

end Watching

end EventKind

end ServiceDirectory
