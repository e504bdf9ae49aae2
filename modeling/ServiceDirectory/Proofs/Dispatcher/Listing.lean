import ServiceDirectory.Proofs.Dispatcher.Capturing

/-!
# Listing and dispatching

Where every listener declares one kind and keeps to it, it is registered at most once, in the
bucket of that kind.  Then a dispatcher is a list of listeners in the order of registration.
Listing them and dispatching an event gather registrations from buckets and sort them, each in
its own way, and still the listeners that are called are those of the list that accept the
event, in the order of the list.
-/

namespace ServiceDirectory

/-! ## One registration for each listener -/

theorem firstOfEach_eq_self {registrations : List Registration}
    (h : (registrations.map Registration.listener).Nodup) :
    firstOfEach registrations = registrations := by
  induction registrations with
  | nil => rfl
  | cons first rest ih =>
    rw [List.map_cons, List.nodup_cons] at h
    rw [firstOfEach, ih h.2]
    refine congrArg (first :: ·) (List.filter_eq_self.2 fun s hs => ?_)
    have hne : s.listener ≠ first.listener := by
      intro heq
      exact h.1 (heq ▸ List.mem_map_of_mem hs)
    simpa using hne

namespace Dispatcher

variable {κ : Type} {id : Ref .dispatcher} {kinds : Listener → Option EventKind}
  {listeners : List Listener} {w : World κ}

/-- What a request makes of the registered listeners.  A listener of no kind is refused. -/
def Request.enrol (kinds : Listener → Option EventKind) (listeners : List Listener) :
    Request → List Listener
  | add l => if kinds l = none then listeners else enlist listeners l
  | remove l => listeners.filter fun other => other ≠ l

/-- The requests that a dispatcher has been given since it was made leave these listeners, in
the order of registration.  At each request the listener has declared its kind.  Priorities may
change at any time, and all else may change too. -/
inductive Enlists (id : Ref .dispatcher) (kinds : Listener → Option EventKind) :
    List Listener → World κ → Prop
  | created {w : World κ} (executor : Executor) (hid : w.result (create executor) = id) :
    Enlists id kinds [] (w.after (create executor))
  | request {listeners : List Listener} {w : World κ} (h : Enlists id kinds listeners w)
    (r : Request) (hkind : w.declaredKind r.listener = kinds r.listener) :
    Enlists id kinds (r.enrol kinds listeners) (w.after (r.perform id).run)
  | meanwhile {listeners : List Listener} {w w' : World κ} (h : Enlists id kinds listeners w)
    (hsame : w'.dispatcher id = w.dispatcher id) : Enlists id kinds listeners w'

/-- A listener with the name of its kind. -/
def pairOf (kinds : Listener → Option EventKind) (l : Listener) : String × Listener :=
  (((kinds l).map EventKind.name).getD "", l)

theorem pairOf_injective (kinds : Listener → Option EventKind) :
    Function.Injective (pairOf kinds) := fun _ _ h => (Prod.mk.inj h).2

theorem pairOf_eq {l : Listener} {kind : EventKind} (h : kinds l = some kind) :
    pairOf kinds l = (kind.name, l) := by
  rw [pairOf, h]
  rfl

theorem map_snd_pairOf (kinds : Listener → Option EventKind) (listeners : List Listener) :
    (listeners.map (pairOf kinds)).map Prod.snd = listeners := by
  rw [List.map_map]
  exact List.map_id _

theorem idxOf_pairOf (kinds : Listener → Option EventKind) (listeners : List Listener)
    (l : Listener) :
    (listeners.map (pairOf kinds)).idxOf (pairOf kinds l) = listeners.idxOf l := by
  induction listeners with
  | nil => rfl
  | cons first rest ih =>
    rw [List.map_cons, List.idxOf_cons, List.idxOf_cons, ih]
    by_cases hl : first = l
    · rw [hl, beq_self_eq_true, beq_self_eq_true]
    · have hpair : pairOf kinds first ≠ pairOf kinds l := fun h => hl (pairOf_injective kinds h)
      rw [beq_false_of_ne hl, beq_false_of_ne hpair]

theorem addPair_pairOf {l : Listener} {kind : EventKind} (h : kinds l = some kind) :
    Ledger.addPair (listeners.map (pairOf kinds)) (kind.name, l) =
      (enlist listeners l).map (pairOf kinds) := by
  have hmem : pairOf kinds l ∈ listeners.map (pairOf kinds) ↔ l ∈ listeners :=
    List.mem_map_of_injective (pairOf_injective kinds)
  rw [← pairOf_eq h, Ledger.addPair, enlist]
  by_cases hl : l ∈ listeners
  · rw [if_pos hl, if_pos (hmem.2 hl)]
  · rw [if_neg hl, if_neg (mt hmem.1 hl), List.map_append]
    rfl

theorem filter_pairOf {l : Listener} {kind : EventKind} (h : kinds l = some kind) :
    ((listeners.map (pairOf kinds)).filter fun pair => pair ≠ (kind.name, l)) =
      (listeners.filter fun other => other ≠ l).map (pairOf kinds) := by
  rw [← pairOf_eq h, List.filter_map]
  refine congrArg (List.map (pairOf kinds)) (List.filter_congr fun other _ => ?_)
  simp [(pairOf_injective kinds).eq_iff]

/-- Each of the listeners is registered for the kind that it declares, and for no other. -/
theorem Enlists.records (h : Enlists id kinds listeners w) :
    (∀ l ∈ listeners, kinds l ≠ none) ∧ Records id (listeners.map (pairOf kinds)) w := by
  induction h with
  | created executor hid => exact ⟨nofun, .created executor hid⟩
  | @request listeners w _ r hkind ih =>
    obtain ⟨hdeclared, hrecords⟩ := ih
    cases hnone : kinds r.listener with
    | none =>
      have hsame : r.enrol kinds listeners = listeners := by
        cases r with
        | add l => exact if_pos hnone
        | remove l =>
          refine List.filter_eq_self.2 fun other hother => ?_
          have hne : other ≠ l := by
            rintro rfl
            exact hdeclared other hother hnone
          simpa using hne
      rw [hsame]
      exact ⟨hdeclared, hrecords.refused r (hkind.trans hnone)⟩
    | some kind =>
      have hrevised := hrecords.revised r kind (hkind.trans hnone)
      cases r with
      | add l =>
        have hadded : (Request.add l).enrol kinds listeners = enlist listeners l :=
          if_neg (by simp [show kinds l = some kind from hnone])
        rw [hadded]
        refine ⟨fun other hother => ?_, addPair_pairOf hnone ▸ hrevised⟩
        rcases mem_enlist.1 hother with hother | rfl
        · exact hdeclared other hother
        · simp [show kinds other = some kind from hnone]
      | remove l =>
        refine ⟨fun other hother => hdeclared other (List.mem_of_mem_filter hother), ?_⟩
        exact filter_pairOf hnone ▸ hrevised
  | meanwhile _ hsame ih => exact ⟨ih.1, ih.2.meanwhile hsame⟩

/-! ## Lists and dispatches -/

/-- Whether a listener takes events of a kind. -/
def takes (kinds : Listener → Option EventKind) (kind : EventKind) (l : Listener) : Bool :=
  (kinds l).any fun declared => declared.accepts kind

/-- The listeners in the order in which they run. -/
structure Lists (priority : Listener → Int) (listeners all : List Listener) : Prop where
  perm : all.Perm listeners
  order : all.Pairwise fun a b => priority a < priority b ∨
    (priority a = priority b ∧ listeners.idxOf a < listeners.idxOf b)

theorem Lists.unique {priority : Listener → Int} {all all' : List Listener}
    (h : Lists priority listeners all) (h' : Lists priority listeners all') : all = all' := by
  refine List.Perm.eq_of_pairwise ?_ h.order h'.order (h.perm.trans h'.perm.symm)
  intro a b _ _ hab hba
  omega

/-- What is gathered from all buckets, in whatever order, is listed without a choice. -/
theorem Enlists.exists_lists (h : Enlists id kinds listeners w) (priority : Listener → Int) :
    ∃ all, Lists priority listeners all ∧
      ∀ buckets : Buckets, buckets.Perm (w.dispatcher id).roster.buckets.entries →
        Buckets.listeners priority buckets = all := by
  obtain ⟨ledger, hpairs, hkeeps⟩ := h.records.2.keeps
  obtain ⟨sorted, hperm, horder, hsorted⟩ := hkeeps.exists_sorted priority fun _ => true
  rw [List.filter_true, hpairs] at hperm
  rw [hpairs] at horder
  have hlisteners : (ledger.map Prod.snd).map Registration.listener = listeners := by
    rw [← map_snd_pairOf kinds listeners, ← hpairs, Ledger.pairs, List.map_map, List.map_map]
    rfl
  have hnodup : listeners.Nodup := (h.records.2.pairs_nodup).of_map
  refine ⟨sorted.map Prod.snd, ⟨?_, ?_⟩, fun buckets hbuckets => ?_⟩
  · exact map_snd_pairOf kinds listeners ▸ hperm.map Prod.snd
  · refine List.pairwise_map.2 (horder.imp_of_mem fun {p q} hp hq hpq => ?_)
    obtain ⟨a, -, rfl⟩ := List.mem_map.1 (hperm.mem_iff.1 hp)
    obtain ⟨b, -, rfl⟩ := List.mem_map.1 (hperm.mem_iff.1 hq)
    rw [idxOf_pairOf, idxOf_pairOf] at hpq
    exact hpq
  · have hgathered := hkeeps.gathered_perm hbuckets fun _ => true
    rw [List.filter_true, List.filter_true] at hgathered
    have honce : ((buckets.flatMap Prod.snd).map Registration.listener).Nodup :=
      (hgathered.map Registration.listener).nodup_iff.2 (hlisteners ▸ hnodup)
    have hall := hsorted buckets hbuckets
    rw [List.filter_true] at hall
    rw [Buckets.listeners, firstOfEach_eq_self honce, hall]

/-- The listeners of a list that take an event have their turns in the order of the list. -/
theorem Lists.inTurn {priority : Listener → Int} {all : List Listener}
    (h : Lists priority listeners all) (hdeclared : ∀ l ∈ listeners, kinds l ≠ none)
    (kind : EventKind) :
    InTurn priority kind (listeners.map (pairOf kinds))
      ((all.filter (takes kinds kind)).map (pairOf kinds)) where
  called := by
    have hcalled : ((listeners.map (pairOf kinds)).filter fun pair =>
        pair.1 ∈ kind.ancestors.map EventKind.name) =
          (listeners.filter (takes kinds kind)).map (pairOf kinds) := by
      rw [List.filter_map]
      refine congrArg (List.map (pairOf kinds)) (List.filter_congr fun l hl => ?_)
      obtain ⟨declared, hkind⟩ := Option.ne_none_iff_exists'.1 (hdeclared l hl)
      rw [Function.comp_apply, pairOf_eq hkind, takes, hkind, Option.any_some, EventKind.accepts,
        Bool.eq_iff_iff, EventKind.isNamedAbove_iff, decide_eq_true_iff]
    rw [hcalled]
    exact (h.perm.filter _).map _
  order := by
    refine List.pairwise_map.2 ((h.order.filter _).imp fun {a b} hab => ?_)
    rw [idxOf_pairOf, idxOf_pairOf]
    exact hab

/-- A dispatcher lists each of its listeners once, by the priorities of the moment and then in
the order of registration, and in whatever order the buckets are walked.  The listeners that it
calls for an event, one after the other, are those of the list that accept the event. -/
theorem listing_of_enlists (h : Enlists id kinds listeners w) :
    listeners.Nodup ∧ ∃ all, Lists w.priority listeners all ∧
      (∀ buckets : Buckets, buckets.Perm (w.dispatcher id).roster.buckets.entries →
        Buckets.listeners w.priority buckets = all) ∧
      Dispatcher.listeners w id = all ∧
      ∀ (host : Host κ) (event : Event),
        (∀ buckets : Buckets, buckets.Perm (w.dispatcher id).roster.buckets.entries →
          Told host event w (all.filter (takes kinds event.kind))
            (w.after (Task.run host ⟨buckets, event⟩))) ∧
        ((w.dispatcher id).executor = .direct →
          Told host event w (all.filter (takes kinds event.kind))
            (w.after (dispatch host id event))) := by
  obtain ⟨hdeclared, hrecords⟩ := h.records
  obtain ⟨all, hlists, hbuckets⟩ := h.exists_lists w.priority
  refine ⟨hrecords.pairs_nodup.of_map, all, hlists, hbuckets, hbuckets _ (List.Perm.refl _),
    fun host event => ?_⟩
  obtain ⟨turns, hturns, htold⟩ := hrecords.told_run host event w
  obtain rfl := hturns.unique (hlists.inTurn hdeclared event.kind)
  rw [map_snd_pairOf] at htold
  refine ⟨htold, fun hdirect => ?_⟩
  rw [after_dispatch, hdirect]
  exact htold _ (List.Perm.refl _)

/-! ## Listeners of two kinds -/

section Mustering

def drill : EventKind := .child "drill" .any

/-- One listener declares a kind below that of two others, and one declares none. -/
def recruited : World Unit :=
  let w := (World.initial ()).after (create .direct)
  (((w.setProfile ⟨1⟩ ⟨some .any, 5⟩).setProfile ⟨2⟩ ⟨some drill, 1⟩).setProfile ⟨3⟩
    ⟨some .any, 5⟩).setProfile ⟨4⟩ ⟨none, 0⟩

def recruit (serial : ℕ) : Listener := .observer (.client ⟨serial⟩)

/-- The first listener leaves and comes back. -/
def musters : List Request :=
  [.add (recruit 1), .add (recruit 2), .add (recruit 3), .add (recruit 4), .remove (recruit 1),
    .add (recruit 1), .add (recruit 3)]

/-- At last the second listener stands back. -/
def mustered : World Unit :=
  (musters.foldl (fun w r => w.after (r.perform ⟨0⟩).run) recruited).setProfile ⟨2⟩
    ⟨some drill, 9⟩

theorem mustered_enlists :
    Enlists ⟨0⟩ recruited.declaredKind [recruit 2, recruit 3, recruit 1] mustered := by
  have hcreated : Enlists ⟨0⟩ recruited.declaredKind [] ((World.initial ()).after
    (create .direct)) := .created _ rfl
  have hrecruited : Enlists ⟨0⟩ recruited.declaredKind [] recruited := hcreated.meanwhile rfl
  have hall := ((hrecruited.request (.add (recruit 1)) rfl).request (.add (recruit 2)) rfl).request
    (.add (recruit 3)) rfl
  have hback := ((hall.request (.add (recruit 4)) rfl).request (.remove (recruit 1)) rfl).request
    (.add (recruit 1)) rfl
  exact (hback.request (.add (recruit 3)) rfl).meanwhile rfl

/-- The events of the kind above go past the second listener, and nothing else is different. -/
theorem listing_of_enlists_mustered :
    let general : Event := .raise "source" (.generic "hello")
    let special : Event := .raise "source" (.custom drill "hello")
    Enlists ⟨0⟩ recruited.declaredKind [recruit 2, recruit 3, recruit 1] mustered ∧
      Dispatcher.listeners mustered ⟨0⟩ = [recruit 3, recruit 1, recruit 2] ∧
      Told Host.quiet general mustered [recruit 3, recruit 1]
        (mustered.after (dispatch Host.quiet ⟨0⟩ general)) ∧
      Told Host.quiet special mustered [recruit 3, recruit 1, recruit 2]
        (mustered.after (dispatch Host.quiet ⟨0⟩ special)) := by
  intro general special
  obtain ⟨-, all, hlists, -, hlisted, hdispatch⟩ := listing_of_enlists mustered_enlists
  have hexpected : Lists mustered.priority [recruit 2, recruit 3, recruit 1]
      [recruit 3, recruit 1, recruit 2] := ⟨by decide, by decide⟩
  obtain rfl := hlists.unique hexpected
  exact ⟨mustered_enlists, hlisted, (hdispatch Host.quiet general).2 rfl,
    (hdispatch Host.quiet special).2 rfl⟩

end Mustering

end Dispatcher

end ServiceDirectory
